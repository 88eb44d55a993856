import Courseware.Text.Search
import Courseware.Chunk.Basic

/-! # Chunks from windows

Where a text has no boundaries a window of a fixed number of bytes slides over it. A window ends
early before its last space when that space lies in its last fifth, so that words stay whole, and
the next window begins before the end of this one by the overlap. -/

namespace Courseware.Window

open Courseware.Text

/-- The part of a text that a window of `width` bytes covers: at least one character, and otherwise
as many as fit. -/
def cover (width : Nat) (cs : List Char) : List Char :=
  match takeBytes width cs with
  | [] => cs.take 1
  | covered => covered

/-- The part before the last space, when that space lies in the last fifth of the part; otherwise
the whole part. -/
def snap (covered : List Char) : List Char :=
  let before := (upToLast (· == ' ') covered).dropLast
  if 4 * byteLength covered < 5 * byteLength before then before else covered

/-- The piece at the start of a text: what the window covers, cut at a space unless it reaches the
end of the text. -/
def first (width : Nat) (cs : List Char) : List Char :=
  let covered := cover width cs
  if covered.length < cs.length then snap covered else covered

/-- How far the next window begins after this piece began. -/
def advance (overlap : Nat) (piece : List Char) : Nat :=
  if overlap < byteLength piece then byteLength piece - overlap else byteLength piece

theorem cover_ne_nil {width : Nat} {cs : List Char} (h : cs ≠ []) : cover width cs ≠ [] := by
  unfold cover
  split
  · cases cs with
    | nil => exact absurd rfl h
    | cons c cs => simp
  · assumption

theorem byteLength_pos {cs : List Char} (h : cs ≠ []) : 0 < byteLength cs := by
  match cs with
  | c :: cs => have := c.utf8Size_pos; simp only [byteLength]; omega

/-- The first piece of a text that is not empty has at least one byte. -/
theorem byteLength_first_pos {width : Nat} {cs : List Char} (h : cs ≠ []) :
    0 < byteLength (first width cs) := by
  have hc : 0 < byteLength (cover width cs) := byteLength_pos (cover_ne_nil h)
  simp only [first, snap]
  split
  · split <;> omega
  · exact hc

/-- The window moves on. -/
theorem advance_pos {overlap : Nat} {piece : List Char} (h : 0 < byteLength piece) :
    0 < advance overlap piece := by
  unfold advance; split <;> omega

/-- The pieces that a window of `width` bytes cuts from a text, up to the one that reaches its
end. -/
def pieces (width overlap : Nat) (cs : List Char) : List (List Char) :=
  if _hcs : cs = [] then []
  else
    let piece := first width cs
    if piece.length < cs.length then
      piece :: pieces width overlap (dropBytesUp (advance overlap piece) cs)
    else [piece]
termination_by cs.length
decreasing_by exact length_dropBytesUp_lt (advance_pos (byteLength_first_pos _hcs)) _hcs

/-- The chunks of a text cut by windows. -/
def chunks (budget : ChunkBudget) (text : String) : Except ChunkingError (List Chunk) :=
  let width := Token.toBytes budget.maxTokens
  if width = 0 then .error .emptyWindow
  else .ok (Chunk.ofPieces (pieces width (Token.toBytes budget.overlapTokens) text.toList))

end Courseware.Window
