import Courseware.Context.Bounded

/-! # Size statistics

The size of a text, and how many chunks it falls into when it is too large to be its own
context. -/

namespace Courseware

/-- The number of chunks of a text and their mean size. -/
structure ChunkStats where
  /-- How many chunks there are. -/
  count : Nat
  /-- The tokens of the text by the number of chunks, rounded down; zero when there are none. -/
  averageTokens : Nat
  deriving DecidableEq, Repr

/-- The size of a text. -/
structure ContextStats where
  /-- The estimated tokens. -/
  totalTokens : Nat
  /-- The bytes. -/
  totalBytes : Nat
  /-- The words. -/
  wordCount : Nat
  /-- Its chunks, when it is too large to be its own context. -/
  chunks : Option ChunkStats
  deriving DecidableEq, Repr

/-- The size of a text under the limits of a bounding. -/
def Bounding.stats (bounding : Bounding) (text : String) : ContextStats :=
  let tokens := Token.estimate text.toList
  let chunkStats : ChunkStats :=
    let count := (Chunk.split bounding.limits.budget text).length
    ⟨count, tokens / count⟩
  { totalTokens := tokens
    totalBytes := Text.size text
    wordCount := Token.countWords text.toList
    chunks := if bounding.needed text then some chunkStats else none }

end Courseware
