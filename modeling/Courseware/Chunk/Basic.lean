import Courseware.Text.Blank
import Courseware.Token

/-! # Chunks

A **chunk** is a piece of a source text with its place in the row of pieces. Pieces become chunks
by `Chunk.ofPieces`, which trims them, leaves out the blank ones and numbers the rest. -/

namespace Courseware

/-- A piece of a source text. -/
structure Chunk where
  /-- The text of the piece. -/
  text : String
  /-- Its place among the pieces, from zero. -/
  ordinal : Nat
  deriving DecidableEq, Repr

/-- How a text is to be split. -/
structure ChunkBudget where
  /-- The tokens one chunk should hold at most. -/
  maxTokens : Nat
  /-- The tokens a chunk repeats from the end of the one before. -/
  overlapTokens : Nat
  deriving DecidableEq, Repr

/-- Why a way of splitting does not apply. -/
inductive ChunkingError where
  /-- Nothing but the two ends divides a text of this length. -/
  | noBoundaries (length : Nat)
  /-- All pieces were blank. -/
  | noChunks
  /-- The budget leaves no room for a character. -/
  | emptyWindow
  deriving DecidableEq, Repr

/-- The text of a chunking error. -/
def ChunkingError.message : ChunkingError → String
  | .noBoundaries length =>
    "no usable semantic boundaries in " ++ toString length ++ " bytes of text"
  | .noChunks => "semantic pass produced no chunks"
  | .emptyWindow => "chunk window must be at least one character"

namespace Chunk

/-- Texts numbered from `first` on. -/
def sequenceFrom (first : Nat) : List String → List Chunk
  | [] => []
  | text :: rest => ⟨text, first⟩ :: sequenceFrom (first + 1) rest

/-- Texts numbered in order from zero. -/
def sequence (texts : List String) : List Chunk := sequenceFrom 0 texts

/-- The chunks of a row of pieces: trimmed, without the blank ones, numbered in order. -/
def ofPieces (pieces : List (List Char)) : List Chunk :=
  sequence <| ((pieces.map Text.trim).filter fun piece => !piece.isEmpty).map String.ofList

@[simp] theorem length_sequenceFrom (first : Nat) (texts : List String) :
    (sequenceFrom first texts).length = texts.length := by
  induction texts generalizing first with
  | nil => rfl
  | cons _ _ ih => simp [sequenceFrom, ih]

@[simp] theorem map_text_sequenceFrom (first : Nat) (texts : List String) :
    (sequenceFrom first texts).map Chunk.text = texts := by
  induction texts generalizing first with
  | nil => rfl
  | cons _ _ ih => simp [sequenceFrom, ih]

end Chunk
end Courseware
