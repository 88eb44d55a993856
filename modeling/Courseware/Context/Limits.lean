import Courseware.Chunk.Basic

/-! # Limits of a context

How large a text may be before it is reduced, and how large the reduced text may be. -/

namespace Courseware

/-- The limits within which a context is made from a text. -/
structure Limits where
  /-- Up to this many tokens a text is its own context. -/
  threshold : Nat := 2000
  /-- The tokens a reduced context has at most. -/
  ceiling : Nat := 3000
  /-- The tokens of one chunk. -/
  chunkSize : Nat := 1000
  /-- The tokens a chunk shares with the one before. -/
  overlap : Nat := 100
  /-- The bytes of the start of the text that serve when nothing else does. -/
  emergencyBytes : Nat := 12000
  deriving DecidableEq, Repr

/-- The budget for splitting a text into chunks. -/
def Limits.budget (limits : Limits) : ChunkBudget := ⟨limits.chunkSize, limits.overlap⟩

end Courseware
