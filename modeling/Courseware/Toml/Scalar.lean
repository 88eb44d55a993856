import Courseware.Json.Number
import Courseware.Toml.Token

/-! # TOML numbers and words

`Toml.scalar` reads a run that stands for a value: a truth value, a whole number of 64 bits with
sign in one of four bases, or a float. Underscores may separate digits. -/

namespace Courseware.Toml

/-- Digits without the single underscores between them. -/
def digitGroups (isDigit : Char → Bool) (cs : List Char) : Option (List Char) :=
  let groups := cs.splitOn '_'
  if groups.all fun group => !group.isEmpty && group.all isDigit then some groups.flatten else none

/-- The number that digits of a base write. -/
def valueOf (base : Nat) (ds : List Char) : Nat :=
  ds.foldl (fun n c => base * n + (hexDigit? c).getD 0) 0

/-- Decimal digits that do not begin with a needless zero. -/
def wholePart (cs : List Char) : Option (List Char) :=
  (digitGroups Char.isDigit cs).filter fun ds => ds.length = 1 ∨ ds.head? ≠ some '0'

/-- A text after its sign, and whether the sign is a minus. -/
def splitSign : List Char → Bool × List Char
  | '-' :: rest => (true, rest)
  | '+' :: rest => (false, rest)
  | cs => (false, cs)

/-- A whole number without sign that is not decimal. -/
def prefixed : List Char → Option Nat
  | '0' :: 'x' :: rest => (digitGroups (fun c => (hexDigit? c).isSome) rest).map (valueOf 16)
  | '0' :: 'o' :: rest => (digitGroups (fun c => '0' ≤ c ∧ c ≤ '7') rest).map (valueOf 8)
  | '0' :: 'b' :: rest => (digitGroups (fun c => c = '0' ∨ c = '1') rest).map (valueOf 2)
  | _ => none

/-- A whole number. -/
def integer (cs : List Char) : Option Int :=
  let (negative, rest) := splitSign cs
  let n : Option Int := match prefixed cs with
    | some n => some n
    | none => (wholePart rest).map fun ds =>
      if negative then -(valueOf 10 ds : Int) else valueOf 10 ds
  n.filter fun n => -(Nat.pow 2 63 : Nat) ≤ n ∧ n < (Nat.pow 2 63 : Nat)

/-- Powers of ten past this one lead out of the range of floats, whatever the digits. -/
def farExponent : Nat := 5000

/-- The finite float `digits * 10 ^ exponent`. -/
def scaled (digits : Nat) (exponent : Int) : Option Float :=
  if digits = 0 ∨ exponent < -(farExponent : Int) then some 0
  else if (farExponent : Int) < exponent then none
  else some (Float.ofScientific digits (exponent < 0) exponent.natAbs) |>.filter (·.isFinite)

/-- The exponent behind its mark. -/
def exponentPart (cs : List Char) : Option Int :=
  let (negative, rest) := splitSign cs
  (digitGroups Char.isDigit rest).map fun ds =>
    if negative then -(valueOf 10 ds : Int) else valueOf 10 ds

/-- A float without sign: it has a fraction, an exponent or both. -/
def unsignedFloat (cs : List Char) : Option Float :=
  let isMark (c : Char) : Bool := c == 'e' || c == 'E'
  let mantissa := cs.takeWhile fun c => !isMark c
  let tail := cs.dropWhile fun c => !isMark c
  let whole := mantissa.takeWhile (· != '.')
  let point := mantissa.dropWhile (· != '.')
  if tail.isEmpty ∧ point.isEmpty then none
  else do
    let ds ← wholePart whole
    let fraction ← if point.isEmpty then some [] else digitGroups Char.isDigit (point.drop 1)
    let exponent ← if tail.isEmpty then some 0 else exponentPart (tail.drop 1)
    scaled (valueOf 10 (ds ++ fraction)) (exponent - fraction.length)

/-- A float, also an infinite one or none at all. -/
def float (cs : List Char) : Option Float :=
  let (negative, rest) := splitSign cs
  let x := match rest with
    | ['i', 'n', 'f'] => some (1.0 / 0.0)
    | ['n', 'a', 'n'] => some (0.0 / 0.0)
    | _ => unsignedFloat rest
  x.map fun x => if negative then -x else x

/-- The value that a run stands for. -/
def scalar (cs : List Char) : Option Json :=
  match cs with
  | ['t', 'r', 'u', 'e'] => some (.bool true)
  | ['f', 'a', 'l', 's', 'e'] => some (.bool false)
  | _ =>
    match integer cs with
    | some n => some (.number (.integer n))
    | none => (float cs).map fun x => .number (.real x)

end Courseware.Toml
