import Courseware.Decimal.Shortest

/-! # Floats as text

`Layout.render` writes a float with the fewest digits that read back. A `Layout` holds what formats
differ in: which numbers are written positionally, whether a whole number ends in `.0`, whether an
exponent carries a plus sign, and which of two equally near decimals is taken. `tenths` writes a
fraction with one place. -/

namespace Courseware.Decimal

/-- The choices of a float format. -/
structure Layout where
  /-- Whether a number is written positionally, by the power of ten of its leading digit. -/
  positional : Int → Bool
  /-- Whether a whole number ends in `.0`. -/
  pointZero : Bool
  /-- Whether an exponent that is not negative carries a plus sign. -/
  exponentPlus : Bool
  /-- The choice between two equally near decimals. -/
  tie : Tie

namespace Layout

/-- Digits and the power of ten of the last of them, written positionally. -/
def positionally (layout : Layout) (ds : List Char) (exponent : Int) : List Char :=
  if 0 ≤ exponent then
    ds ++ List.replicate exponent.toNat '0' ++ if layout.pointZero then ['.', '0'] else []
  else
    let places := (-exponent).toNat
    if places < ds.length then
      ds.take (ds.length - places) ++ '.' :: ds.drop (ds.length - places)
    else '0' :: '.' :: (List.replicate (places - ds.length) '0' ++ ds)

/-- Digits with the point after the first of them, and the power of ten of the first. -/
def scientifically (layout : Layout) (ds : List Char) (leading : Int) : List Char :=
  let mantissa := ds.take 1 ++ if ds.length = 1 then [] else '.' :: ds.drop 1
  let sign := if leading < 0 then ['-'] else if layout.exponentPlus then ['+'] else []
  mantissa ++ 'e' :: (sign ++ Nat.toDigits 10 leading.natAbs)

/-- The text of a decimal. -/
def decimal (layout : Layout) (d : Numeral) : List Char :=
  let ds := Nat.toDigits 10 d.digits
  let leading := d.exponent + ds.length - 1
  if layout.positional leading then layout.positionally ds d.exponent
  else layout.scientifically ds leading

/-- The text of a magnitude. -/
def magnitude (layout : Layout) (m : Magnitude) : List Char :=
  if m.significand = 0 then layout.positionally ['0'] 0
  else layout.decimal (Shortest.digits layout.tie m)

/-- The text of what a float stands for. -/
def render (layout : Layout) : Binary → List Char
  | .nan => ['N', 'a', 'N']
  | .infinite false => ['i', 'n', 'f']
  | .infinite true => ['-', 'i', 'n', 'f']
  | .finite false m => layout.magnitude m
  | .finite true m => '-' :: layout.magnitude m

/-- The text of a float of 64 bits. -/
def float (layout : Layout) (x : Float) : String := String.ofList (layout.render (.ofFloat x))

/-- The text of a float of 32 bits. -/
def float32 (layout : Layout) (x : Float32) : String :=
  String.ofList (layout.render (.ofFloat32 x))

/-- Every number is written positionally, without a zero after the point of a whole number. -/
def plain : Layout where
  positional := fun _ => true
  pointZero := false
  exponentPlus := false
  tie := .up

end Layout

/-- A fraction rounded to a whole number; the even one of two equally near. -/
def roundToEven (r : Ratio) : Nat :=
  let below := r.num / r.den
  match compare (2 * (r.num % r.den)) r.den with
  | .lt => below
  | .gt => below + 1
  | .eq => if below % 2 = 0 then below else below + 1

/-- A fraction with one place after the point. -/
def tenths (r : Ratio) : String :=
  let n := roundToEven ⟨10 * r.num, r.den⟩
  toString (n / 10) ++ "." ++ toString (n % 10)

end Courseware.Decimal
