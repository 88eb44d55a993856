import Courseware.Chunk.Boundary

/-! # Chunks from segments

The **segments** of a text lie between neighbouring boundaries. They are packed greedily: a segment
joins the running piece unless the piece would outgrow the budget, in which case the piece is
closed and the segment begins the next one, after a **seed** repeated from the end of the closed
piece. -/

namespace Courseware.Segment

open Courseware.Text

/-- The parts of a text between ascending offsets; the text begins at offset `start`. -/
def cutAt (start : Nat) : List Nat → List Char → List (List Char)
  | [], _ => []
  | offset :: rest, cs =>
    if offset ≤ start then cutAt start rest cs
    else takeBytes (offset - start) cs :: cutAt offset rest (dropBytes (offset - start) cs)

/-- What the piece after `piece` begins with: its last `overlap` bytes when it is longer than that,
and otherwise nothing. -/
def seed (overlap : Nat) (piece : List Char) : List Char :=
  if 0 < overlap ∧ overlap < byteLength piece then takeLastBytes overlap piece else []

/-- The pieces into which segments are packed, when the running piece is `piece`: a piece that is
not empty is closed before a segment with which it would pass `limit` bytes. -/
def pack (limit overlap : Nat) (piece : List Char) : List (List Char) → List (List Char)
  | [] => [piece]
  | segment :: rest =>
    if piece ≠ [] ∧ limit < byteLength piece + byteLength segment then
      piece :: pack limit overlap (seed overlap piece ++ segment) rest
    else pack limit overlap (piece ++ segment) rest

/-- The pieces of a text packed from the segments between its boundaries. -/
def pieces (budget : ChunkBudget) (cs : List Char) : Except ChunkingError (List (List Char)) :=
  (Boundary.find cs).map fun offsets =>
    pack (Token.toBytes budget.maxTokens) (Token.toBytes budget.overlapTokens) []
      (cutAt 0 offsets cs)

/-- The chunks of a text packed from the segments between its boundaries. -/
def chunks (budget : ChunkBudget) (text : String) : Except ChunkingError (List Chunk) := do
  let packed ← pieces budget text.toList
  match Chunk.ofPieces packed with
  | [] => .error .noChunks
  | found => .ok found

end Courseware.Segment
