/-! # Binary floats as exact numbers

A float stands for a whole number times a power of two. `Binary.ofBits` reads the number off the
bits of its interchange form, for any split of the bits into sign, exponent and fraction
(`Precision`), and `Binary.range` gives the numbers that round to it. -/

namespace Courseware.Decimal

/-- How many bits of a float hold the exponent and how many the fraction. -/
structure Precision where
  /-- Bits of the exponent. -/
  exponentBits : Nat
  /-- Bits of the fraction. -/
  fractionBits : Nat
  deriving DecidableEq, Repr

namespace Precision

/-- Floats of 64 bits. -/
def double : Precision := ⟨11, 52⟩

/-- Floats of 32 bits. -/
def single : Precision := ⟨8, 23⟩

/-- The power of two of the last place of the least floats. -/
def leastExponent (p : Precision) : Int :=
  2 - (Nat.pow 2 (p.exponentBits - 1) : Nat) - p.fractionBits

end Precision

/-- The magnitude `significand * 2 ^ exponent` of a finite float. -/
structure Magnitude where
  /-- The whole number. -/
  significand : Nat
  /-- The power of two of its last place. -/
  exponent : Int
  /-- Whether the next smaller float is half as far away as the next greater one. -/
  narrowBelow : Bool
  deriving DecidableEq, Repr

/-- What a float stands for. -/
inductive Binary where
  /-- No number. -/
  | nan
  /-- Past every number. -/
  | infinite ( negative : Bool)
  /-- A number; zero has a sign too. -/
  | finite ( negative : Bool) (magnitude : Magnitude)
  deriving DecidableEq, Repr

namespace Binary

/-- What the bits of a float stand for. -/
def ofBits (p : Precision) (bits : Nat) : Binary :=
  let fraction := bits % Nat.pow 2 p.fractionBits
  let exponent := bits / Nat.pow 2 p.fractionBits % Nat.pow 2 p.exponentBits
  let negative := bits / Nat.pow 2 (p.fractionBits + p.exponentBits) % 2 == 1
  if exponent = Nat.pow 2 p.exponentBits - 1 then
    if fraction = 0 then .infinite negative else .nan
  else if exponent = 0 then .finite negative ⟨fraction, p.leastExponent, false⟩
  else
    .finite negative
      ⟨Nat.pow 2 p.fractionBits + fraction, p.leastExponent + (exponent - 1),
        fraction == 0 && 1 < exponent⟩

/-- What a float of 64 bits stands for. -/
def ofFloat (x : Float) : Binary := ofBits .double x.toBits.toNat

/-- What a float of 32 bits stands for. -/
def ofFloat32 (x : Float32) : Binary := ofBits .single x.toBits.toNat

end Binary

/-- A non-negative fraction of whole numbers; the denominator is positive. -/
structure Ratio where
  /-- The numerator. -/
  num : Nat
  /-- The denominator. -/
  den : Nat
  deriving DecidableEq, Repr

namespace Ratio

/-- A whole number times a power of a base. -/
def scaled (base n : Nat) (exponent : Int) : Ratio :=
  if 0 ≤ exponent then ⟨n * Nat.pow base exponent.toNat, 1⟩ else ⟨n, Nat.pow base (-exponent).toNat⟩

/-- Whether the first fraction is less than the second. -/
def lt (a b : Ratio) : Bool := a.num * b.den < b.num * a.den

/-- Whether the first fraction is at most the second. -/
def le (a b : Ratio) : Bool := a.num * b.den ≤ b.num * a.den

end Ratio

namespace Magnitude

/-- The number itself. -/
def toRatio (m : Magnitude) : Ratio := .scaled 2 m.significand m.exponent

/-- The lower end of the numbers that round to this one: half way to the next smaller float. -/
def lower (m : Magnitude) : Ratio :=
  .scaled 2 (4 * m.significand - if m.narrowBelow then 1 else 2) (m.exponent - 2)

/-- The upper end of the numbers that round to this one: half way to the next greater float. -/
def upper (m : Magnitude) : Ratio := .scaled 2 (4 * m.significand + 2) (m.exponent - 2)

/-- Whether a number rounds to this one. A number half way between two floats rounds to the one
with the even significand. -/
def reads (m : Magnitude) (r : Ratio) : Bool :=
  if m.significand % 2 = 0 then m.lower.le r && r.le m.upper else m.lower.lt r && r.lt m.upper

end Magnitude

end Courseware.Decimal
