import Courseware.Text.Blank
import Courseware.Text.Bytes
import Courseware.Chunk.Basic

/-! # Boundaries

Places where a text may be divided, as byte offsets. Three kinds are known, from coarse to fine:
the ends of **paragraph breaks** (blank runs with two or more newlines), the **starts of lines**,
and the **ends of sentences** (blank runs that directly follow a full stop, an exclamation mark or a
question mark). The finer kinds join in only when the coarser ones are few. `Boundary.find` gives
the boundaries in ascending order, from the start of the text to its end. -/

namespace Courseware.Boundary

open Courseware.Text

/-- The offsets after the last newline of every blank run with two or more newlines. The scan is at
offset `offset`, and the blank run before it has `newlines` newlines, the last of which ends at
`last`. -/
def paragraphBreaksFrom (offset newlines last : Nat) : List Char → List Nat
  | [] => if 2 ≤ newlines then [last] else []
  | c :: cs =>
    let next := offset + c.utf8Size
    if c = '\n' then paragraphBreaksFrom next (newlines + 1) next cs
    else if isBlank c then paragraphBreaksFrom next newlines last cs
    else if 2 ≤ newlines then last :: paragraphBreaksFrom next 0 0 cs
    else paragraphBreaksFrom next 0 0 cs

/-- The ends of the paragraph breaks of a text. -/
def paragraphBreaks (cs : List Char) : List Nat := paragraphBreaksFrom 0 0 0 cs

/-- The offsets directly after a newline, in a text that begins at `offset`. -/
def lineStartsFrom (offset : Nat) : List Char → List Nat
  | [] => []
  | c :: cs =>
    let next := offset + c.utf8Size
    if c = '\n' then next :: lineStartsFrom next cs else lineStartsFrom next cs

/-- The starts of the lines of a text after the first. -/
def lineStarts (cs : List Char) : List Nat := lineStartsFrom 0 cs

/-- The characters that end a sentence. -/
def isSentenceMark (c : Char) : Bool := c == '.' || c == '!' || c == '?'

/-- Where a scan for sentence ends stands. -/
inductive SentenceScan where
  /-- Not after a sentence mark. -/
  | inside
  /-- Directly after a sentence mark. -/
  | marked
  /-- In a blank run that directly follows a sentence mark. -/
  | gap
  deriving DecidableEq, Repr

/-- The state after one more character. -/
def SentenceScan.next (scan : SentenceScan) (c : Char) : SentenceScan :=
  if isBlank c then
    match scan with
    | .inside => .inside
    | .marked | .gap => .gap
  else if isSentenceMark c then .marked else .inside

/-- The offsets at which a blank run after a sentence mark ends, in a text that begins at
`offset`. -/
def sentenceEndsFrom (offset : Nat) (scan : SentenceScan) : List Char → List Nat
  | [] => if scan = .gap then [offset] else []
  | c :: cs =>
    let rest := sentenceEndsFrom (offset + c.utf8Size) (scan.next c) cs
    if scan = .gap ∧ isBlank c = false then offset :: rest else rest

/-- The ends of the sentences of a text that are followed by a blank. -/
def sentenceEnds (cs : List Char) : List Nat := sentenceEndsFrom 0 .inside cs

/-- An offset added to an ascending row, unless it is there already. -/
def insert (offset : Nat) : List Nat → List Nat
  | [] => [offset]
  | first :: rest =>
    if offset < first then offset :: first :: rest
    else if offset = first then first :: rest
    else first :: insert offset rest

/-- Offsets in ascending order, each of them once. -/
def ascending (offsets : List Nat) : List Nat := offsets.foldr insert []

/-- Starts of lines join in below this number of paragraph breaks. -/
def fewParagraphs : Nat := 10

/-- Ends of sentences join in below this number of coarser boundaries. -/
def fewLines : Nat := 20

/-- Every place that may divide a text, the two ends apart: the paragraph breaks, with the starts
of lines when there are fewer than ten, with the ends of sentences when there are still fewer than
twenty. A place of two kinds counts twice. -/
def candidates (cs : List Char) : List Nat :=
  let coarse := paragraphBreaks cs
  let middle := if coarse.length < fewParagraphs then coarse ++ lineStarts cs else coarse
  if middle.length < fewLines then middle ++ sentenceEnds cs else middle

/-- The boundaries of a text in ascending order, its two ends among them. A text with no other
place to divide it has none. -/
def find (cs : List Char) : Except ChunkingError (List Nat) :=
  let length := byteLength cs
  let offsets := ascending (0 :: length :: candidates cs)
  if offsets.length ≤ 2 then .error (.noBoundaries length) else .ok offsets

/-- An offset is in the row after `insert` exactly when it was there or is the new one. -/
theorem mem_insert {offset x : Nat} {offsets : List Nat} :
    x ∈ insert offset offsets ↔ x = offset ∨ x ∈ offsets := by
  induction offsets with
  | nil => simp [insert]
  | cons first rest ih =>
    unfold insert
    split
    · simp
    · split
      · rename_i h; subst h; simp
      · simp only [List.mem_cons, ih]; grind

/-- Putting offsets in order keeps exactly the offsets. -/
theorem mem_ascending {x : Nat} {offsets : List Nat} : x ∈ ascending offsets ↔ x ∈ offsets := by
  induction offsets with
  | nil => simp [ascending]
  | cons first rest ih =>
    have h : ascending (first :: rest) = insert first (ascending rest) := rfl
    rw [h, mem_insert, ih, List.mem_cons]

end Courseware.Boundary
