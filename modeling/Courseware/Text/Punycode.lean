/-! # Punycode

`Punycode.encode` writes a text with ASCII characters alone: first its ASCII characters and a
hyphen, if there are any, and then where the others stand. The others come in ascending order of
their code points, and in the order of the text where they are equal. Each is written as a **gap**,
the number of insertions that were passed over since the one before: at every place of the text so
far, for every code point so far. A gap is a number in base 36, its lowest digit first; a digit
below the threshold of its place is the last one, and the thresholds follow the sizes of the gaps by
a **bias**. -/

namespace Courseware.Text.Punycode

/-- The base of the digits. -/
def base : Nat := 36

/-- The character of a digit: a letter up to 25, a decimal digit from there on. -/
def digitChar (d : Nat) : Char :=
  if d < 26 then Char.ofNat ('a'.toNat + d) else Char.ofNat ('0'.toNat + (d - 26))

/-- The threshold of a place, from 1 to 26. The first place is `base`, the next one `2 * base`. -/
def threshold (bias place : Nat) : Nat := max 1 (min 26 (place - bias))

theorem threshold_pos (bias place : Nat) : 0 < threshold bias place := by
  unfold threshold; omega

/-- The digits of a gap from a place on. -/
def digits (bias place gap : Nat) : List Char :=
  let t := threshold bias place
  if gap < t then [digitChar gap]
  else
    digitChar (t + (gap - t) % (base - t)) :: digits bias (place + base) ((gap - t) / (base - t))
termination_by gap
decreasing_by
  have h := threshold_pos bias place
  have := Nat.div_le_self (gap - threshold bias place) (base - threshold bias place)
  omega

/-- The bias by a gap that has been scaled. -/
def settle (gap : Nat) : Nat :=
  if 455 < gap then base + settle (gap / 35) else base * gap / (gap + 38)
termination_by gap
decreasing_by omega

/-- The bias after a gap, when the text so far has `length` characters with the new one. -/
def nextBias (gap length : Nat) (first : Bool) : Nat :=
  let scaled := if first then gap / 700 else gap / 2
  settle (scaled + scaled / length)

/-- How far a text has been written. -/
structure Progress where
  /-- The digits. -/
  written : List Char
  /-- The insertions passed over since the last one. -/
  gap : Nat
  /-- The bias. -/
  bias : Nat
  /-- The characters so far. -/
  length : Nat
  /-- Whether no character has been inserted yet. -/
  first : Bool

/-- Pass a character of the text while the characters with the code point `n` are inserted. -/
def pass (n : Nat) (progress : Progress) (c : Char) : Progress :=
  if c.toNat < n then { progress with gap := progress.gap + 1 }
  else if c.toNat = n then
    { written := progress.written ++ digits progress.bias base progress.gap
      gap := 0
      bias := nextBias progress.gap (progress.length + 1) progress.first
      length := progress.length + 1
      first := false }
  else progress

/-- Insert the characters of code points in ascending order; `next` is the first one that has not
been passed over. -/
def insertAll (cs : List Char) : List Nat → Nat → Progress → Progress
  | [], _, progress => progress
  | n :: rest, next, progress =>
    let skipped := progress.gap + (n - next) * (progress.length + 1)
    let passed := cs.foldl (pass n) { progress with gap := skipped }
    insertAll cs rest (n + 1) { passed with gap := passed.gap + 1 }

/-- The code points of a text that are not ASCII, each one once, in ascending order. -/
def codePoints (cs : List Char) : List Nat :=
  (((cs.map Char.toNat).filter (128 ≤ ·)).mergeSort (· ≤ ·)).eraseDups

/-- A text written with ASCII characters alone. -/
def encode (cs : List Char) : List Char :=
  let plain := cs.filter fun c => c.toNat < 128
  let start : Progress := ⟨[], 0, 72, plain.length, true⟩
  (if plain.isEmpty then [] else plain ++ ['-'])
    ++ (insertAll cs (codePoints cs) 128 start).written

end Courseware.Text.Punycode
