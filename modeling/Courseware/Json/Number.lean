import Courseware.Decimal.Layout
import Courseware.Json.Value
import Courseware.Json.Failure

/-! # JSON numbers

`Number.read` reads a number. One without point and exponent that fits 64 bits is a whole number;
every other is a float, made from the digits that fit 64 bits and a power of ten by one rounded
operation. `Number.render` writes a number so that it reads back. -/

namespace Courseware.Json.Number

open Failure

/-- The greatest whole number. -/
def maxInteger : Nat := Nat.pow 2 64 - 1

/-- The least whole number is minus this. -/
def minInteger : Nat := Nat.pow 2 63

/-- The greatest power of ten that is a float. -/
def maxPower : Nat := 308

/-- The greatest exponent that is read in full. -/
def maxExponent : Nat := Nat.pow 2 31 - 1

/-- The value of a decimal digit. -/
def digit (c : Char) : Nat := c.toNat - '0'.toNat

/-- A whole number with one more digit. -/
def push (n : Nat) (c : Char) : Nat := 10 * n + digit c

/-- A power of ten as a float. -/
def power (n : Nat) : Float := Float.ofScientific 1 false n

/-- A float divided by `10 ^ n`, in steps of the greatest power until nothing is left. -/
def divideByPower (x : Float) (n : Nat) : Float :=
  if n ≤ maxPower then x / power n
  else if x == 0 then x
  else divideByPower (x / power maxPower) (n - maxPower)
termination_by n
decreasing_by simp only [maxPower] at *; omega

/-- The float `significand * 10 ^ exponent`; nothing when it is too large. -/
def scale (significand : Nat) (exponent : Int) : Option Float :=
  let x := Float.ofNat significand
  if exponent < 0 then some (divideByPower x exponent.natAbs)
  else if exponent.natAbs ≤ maxPower then
    let scaled := x * power exponent.natAbs
    if scaled.isInf then none else some scaled
  else if x == 0 then some x
  else none

/-- A float with a sign. -/
def signed ( negative : Bool) (x : Float) : Number := .real (if negative then -x else x)

/-- A number read, with the rest of the text. -/
abbrev Result := Except Failure (Number × List Char)

/-- The number `significand * 10 ^ exponent` before the text `rest`. -/
def finish ( negative : Bool) (significand : Nat) (exponent : Int) (rest : List Char) : Result :=
  match scale significand exponent with
  | some x => .ok (signed negative x, rest)
  | none => .error (after .numberOutOfRange rest)

/-- Reads the digits of an exponent whose value so far is `value`. -/
def exponentDigits ( negative downward : Bool) (significand : Nat) (start : Int) (value : Nat) :
    List Char → Result
  | [] => finish negative significand (if downward then start - value else start + value) []
  | c :: cs =>
    if c.isDigit then
      if push value c ≤ maxExponent then
        exponentDigits negative downward significand start (push value c) cs
      else if significand ≠ 0 ∧ downward = false then .error (after .numberOutOfRange cs)
      else .ok (signed negative 0, cs.dropWhile Char.isDigit)
    else finish negative significand (if downward then start - value else start + value) (c :: cs)

/-- Reads the first digit of an exponent. -/
def exponentStart ( negative downward : Bool) (significand : Nat) (start : Int) :
    List Char → Result
  | [] => .error (after .eofValue [])
  | c :: cs =>
    if c.isDigit then exponentDigits negative downward significand start (digit c) cs
    else .error ⟨.invalidNumber, c :: cs, 1⟩

/-- Reads an exponent after its mark. -/
def exponent ( negative : Bool) (significand : Nat) (start : Int) (cs : List Char) : Result :=
  match cs with
  | '+' :: rest => exponentStart negative false significand start rest
  | '-' :: rest => exponentStart negative true significand start rest
  | rest => exponentStart negative false significand start rest

/-- Reads what may follow the last digit before an exponent. -/
def exponentOrEnd ( negative : Bool) (significand : Nat) (start : Int) (cs : List Char) : Result :=
  match cs with
  | 'e' :: rest | 'E' :: rest => exponent negative significand start rest
  | rest => finish negative significand start rest

/-- Reads the digits after the point, as long as the significand fits 64 bits. Further digits do
not count. -/
def fractionDigits ( negative : Bool) (significand : Nat) (start : Int) : List Char → Result
  | [] => finish negative significand start []
  | c :: cs =>
    if c.isDigit then
      if push significand c ≤ maxInteger then
        fractionDigits negative (push significand c) (start - 1) cs
      else exponentOrEnd negative significand start ((c :: cs).dropWhile Char.isDigit)
    else exponentOrEnd negative significand start (c :: cs)

/-- Reads the part after the point, which has at least one digit. -/
def fraction ( negative : Bool) (significand : Nat) (start : Int) (cs : List Char) : Result :=
  match cs with
  | [] => .error (after .eofValue [])
  | c :: rest =>
    if c.isDigit then fractionDigits negative significand start (c :: rest)
    else .error (atNext .invalidNumber (c :: rest))

/-- Reads the digits of a whole part that does not fit 64 bits: each stands for a power of ten. -/
def longDigits ( negative : Bool) (significand : Nat) (start : Int) : List Char → Result
  | [] => finish negative significand start []
  | c :: cs =>
    if c.isDigit then longDigits negative significand (start + 1) cs
    else if c = '.' then fraction negative significand start cs
    else exponentOrEnd negative significand start (c :: cs)

/-- A number without point and exponent. -/
def whole ( negative : Bool) (n : Nat) : Number :=
  if negative = false then .integer n
  else if n = 0 ∨ minInteger < n then signed true (Float.ofNat n)
  else .integer (-n)

/-- Reads the digits of the whole part, whose value so far is `value`. -/
def wholeDigits ( negative : Bool) (value : Nat) : List Char → Result
  | [] => .ok (whole negative value, [])
  | c :: cs =>
    if c.isDigit then
      if push value c ≤ maxInteger then wholeDigits negative (push value c) cs
      else longDigits negative value 0 (c :: cs)
    else if c = '.' then fraction negative value 0 cs
    else if c = 'e' ∨ c = 'E' then exponent negative value 0 cs
    else .ok (whole negative value, c :: cs)

/-- Reads a number after its sign. -/
def read ( negative : Bool) (cs : List Char) : Result :=
  match cs with
  | [] => .error (after .eofValue [])
  | '0' :: d :: rest =>
    if d.isDigit then .error (atNext .invalidNumber (d :: rest))
    else wholeDigits negative 0 (d :: rest)
  | c :: rest =>
    if c.isDigit then wholeDigits negative (digit c) rest else .error ⟨.invalidNumber, c :: rest, 1⟩

/-- Reads a number with its sign. -/
def readSigned : List Char → Result
  | '-' :: rest => read true rest
  | cs => read false cs

/-- Numbers are written positionally from `0.00001` to below `10 ^ 16`, a whole float ends in
`.0`, an exponent carries its sign, and of two equally near decimals the even one is taken. -/
def layout : Decimal.Layout where
  positional := fun leading => -5 ≤ leading && leading < 16
  pointZero := true
  exponentPlus := true
  tie := .toEven

/-- The text of a number; a float that is not finite has none and is written as `null`. -/
def render : Number → List Char
  | .integer n => (toString n).toList
  | .real x => if x.isFinite then (layout.float x).toList else "null".toList

theorem length_of_finish { negative : Bool} {significand : Nat} {start : Int}
    {cs rest : List Char} {n : Number} (h : finish negative significand start cs = .ok (n, rest)) :
    rest = cs := by
  unfold finish at h
  split at h <;> simp_all

theorem length_dropDigits_le (cs : List Char) : (cs.dropWhile Char.isDigit).length ≤ cs.length :=
  (List.dropWhile_sublist _).length_le

theorem length_of_exponentDigits { negative downward : Bool} {significand value : Nat} {start : Int}
    {cs rest : List Char} {n : Number}
    (h : exponentDigits negative downward significand start value cs = .ok (n, rest)) :
    rest.length ≤ cs.length := by
  induction cs generalizing value with
  | nil => simp [length_of_finish h]
  | cons c cs ih =>
    have hd := length_dropDigits_le cs
    unfold exponentDigits at h
    split at h
    · split at h
      · have := ih h; simp; omega
      · split at h <;> simp_all; grind
    · simp [length_of_finish h]

theorem length_of_exponentStart { negative downward : Bool} {significand : Nat} {start : Int}
    {cs rest : List Char} {n : Number}
    (h : exponentStart negative downward significand start cs = .ok (n, rest)) :
    rest.length ≤ cs.length := by
  unfold exponentStart at h
  split at h
  · simp at h
  · split at h
    · have := length_of_exponentDigits h; simp; omega
    · simp at h

theorem length_of_exponent { negative : Bool} {significand : Nat} {start : Int}
    {cs rest : List Char} {n : Number}
    (h : exponent negative significand start cs = .ok (n, rest)) :
    rest.length ≤ cs.length := by
  unfold exponent at h
  split at h <;> have := length_of_exponentStart h <;> simp_all <;> omega

theorem length_of_exponentOrEnd { negative : Bool} {significand : Nat} {start : Int}
    {cs rest : List Char} {n : Number}
    (h : exponentOrEnd negative significand start cs = .ok (n, rest)) :
    rest.length ≤ cs.length := by
  unfold exponentOrEnd at h
  split at h
  · have := length_of_exponent h; simp; omega
  · have := length_of_exponent h; simp; omega
  · simp [length_of_finish h]

theorem length_of_fractionDigits { negative : Bool} {significand : Nat} {start : Int}
    {cs rest : List Char} {n : Number}
    (h : fractionDigits negative significand start cs = .ok (n, rest)) :
    rest.length ≤ cs.length := by
  induction cs generalizing significand start with
  | nil => simp [length_of_finish h]
  | cons c cs ih =>
    have hd := length_dropDigits_le (c :: cs)
    unfold fractionDigits at h
    split at h
    · split at h
      · have := ih h; simp; omega
      · have := length_of_exponentOrEnd h; omega
    · exact length_of_exponentOrEnd h

theorem length_of_fraction { negative : Bool} {significand : Nat} {start : Int}
    {cs rest : List Char} {n : Number}
    (h : fraction negative significand start cs = .ok (n, rest)) :
    rest.length ≤ cs.length := by
  unfold fraction at h
  split at h
  · simp at h
  · split at h
    · exact length_of_fractionDigits h
    · simp at h

theorem length_of_longDigits { negative : Bool} {significand : Nat} {start : Int}
    {cs rest : List Char} {n : Number}
    (h : longDigits negative significand start cs = .ok (n, rest)) :
    rest.length ≤ cs.length := by
  induction cs generalizing start with
  | nil => simp [length_of_finish h]
  | cons c cs ih =>
    unfold longDigits at h
    split at h
    · have := ih h; simp; omega
    · split at h
      · have := length_of_fraction h; simp; omega
      · exact length_of_exponentOrEnd h

theorem length_of_wholeDigits { negative : Bool} {value : Nat} {cs rest : List Char} {n : Number}
    (h : wholeDigits negative value cs = .ok (n, rest)) : rest.length ≤ cs.length := by
  induction cs generalizing value with
  | nil => simp_all [wholeDigits]
  | cons c cs ih =>
    unfold wholeDigits at h
    split at h
    · split at h
      · have := ih h; simp; omega
      · exact length_of_longDigits h
    · split at h
      · have := length_of_fraction h; simp; omega
      · split at h
        · have := length_of_exponent h; simp; omega
        · simp_all

theorem length_lt_of_read { negative : Bool} {cs rest : List Char} {n : Number}
    (h : read negative cs = .ok (n, rest)) : rest.length < cs.length := by
  unfold read at h
  split at h
  · simp at h
  · split at h
    · simp at h
    · have := length_of_wholeDigits h
      simp only [List.length_cons] at this ⊢
      omega
  · split at h
    · have := length_of_wholeDigits h
      simp only [List.length_cons]
      omega
    · simp at h

/-- What follows a number is shorter than the text with the number. -/
theorem length_lt_of_readSigned {cs rest : List Char} {n : Number}
    (h : readSigned cs = .ok (n, rest)) : rest.length < cs.length := by
  unfold readSigned at h
  split at h
  · have := length_lt_of_read h; simp; omega
  · exact length_lt_of_read h

end Courseware.Json.Number
