import Courseware.Decimal.Binary

/-! # The fewest digits that read back

`Shortest.digits` chooses, among the decimals that round to a float, one with the fewest digits,
and among those the nearest to the float. The search tries one digit, two digits and so on; on each
grid only the two neighbours of the float can be the answer. -/

namespace Courseware.Decimal

/-- Which of two decimals at the same distance is chosen. -/
inductive Tie where
  /-- The one with the even last digit. -/
  | toEven
  /-- The greater one. -/
  | up
  deriving DecidableEq, Repr

/-- The decimal `digits * 10 ^ exponent`. -/
structure Numeral where
  /-- The digits, as a whole number. -/
  digits : Nat
  /-- The power of ten of the last digit. -/
  exponent : Int
  deriving DecidableEq, Repr

/-- The decimal as a fraction. -/
def Numeral.toRatio (d : Numeral) : Ratio := .scaled 10 d.digits d.exponent

namespace Shortest

/-- The number of decimal digits of a whole number; zero has none. -/
def digitCount (n : Nat) : Nat := if n = 0 then 0 else digitCount (n / 10) + 1
termination_by n
decreasing_by omega

/-- The power of ten of the leading digit of a positive fraction. -/
def leading (r : Ratio) : Int :=
  if r.den ≤ r.num then (digitCount (r.num / r.den) : Int) - 1
  else -(digitCount ((r.den - 1) / r.num) : Int)

/-- The greatest whole number of steps of `10 ^ exponent` that does not pass a fraction, and how
the remainder compares with half a step. -/
def floorOn (r : Ratio) (exponent : Int) : Nat × Ordering :=
  let step := Ratio.scaled 10 1 exponent
  let num := r.num * step.den
  let den := r.den * step.num
  (num / den, compare (2 * (num % den)) den)

/-- Of the two neighbours of a float on the grid of `10 ^ exponent`, the nearer one that reads
back. -/
def onGrid (tie : Tie) (m : Magnitude) (exponent : Int) : Option Numeral :=
  let (below, half) := floorOn m.toRatio exponent
  let down : Numeral := ⟨below, exponent⟩
  let up : Numeral := ⟨below + 1, exponent⟩
  match m.reads down.toRatio, m.reads up.toRatio with
  | false, false => none
  | true, false => some down
  | false, true => some up
  | true, true =>
    match half, tie with
    | .lt, _ => some down
    | .gt, _ => some up
    | .eq, .up => some up
    | .eq, .toEven => some (if below % 2 = 0 then down else up)

/-- The first hit on the grids from `exponent` down, at most `tries` of them. -/
def search (tie : Tie) (m : Magnitude) : Nat → Int → Option Numeral
  | 0, _ => none
  | tries + 1, exponent =>
    (onGrid tie m exponent).orElse fun _ => search tie m tries (exponent - 1)

/-- The decimal without its zeros at the end, at most `n` of them. -/
def strip : Nat → Numeral → Numeral
  | 0, d => d
  | n + 1, d => if d.digits % 10 = 0 then strip n ⟨d.digits / 10, d.exponent + 1⟩ else d

/-- Seventeen digits tell any two floats of 64 bits apart. -/
def maxDigits : Nat := 17

/-- The decimal with the fewest digits that rounds to a float which is not zero. -/
def digits (tie : Tie) (m : Magnitude) : Numeral :=
  match search tie m maxDigits (leading m.toRatio) with
  | some d => strip maxDigits d
  | none => ⟨m.significand, m.exponent⟩

end Shortest

end Courseware.Decimal
