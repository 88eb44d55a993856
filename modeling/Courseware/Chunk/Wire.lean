import Courseware.Chunk.Basic
import Courseware.Json.Record

/-! # Chunks as JSON

A chunk is written with its text and its place. -/

namespace Courseware.Chunk

open Json

/-- A chunk as JSON. -/
def toJson (chunk : Chunk) : Json :=
  .object [("text", .string chunk.text), ("ordinal", .nat chunk.ordinal)]

/-- Reads a chunk. -/
def ofJson? (json : Json) : Option Chunk := do
  match ← fields? ["text", "ordinal"] json with
  | [text, ordinal] => return ⟨← required string? text, ← required size? ordinal⟩
  | _ => none

end Courseware.Chunk
