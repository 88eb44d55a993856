import Courseware.Chunk.Segment
import Courseware.Chunk.Window

/-! # Splitting a text

`Chunk.split` divides a text into chunks within a budget. A text within the budget stays whole; a
longer one is packed from its segments, or cut by windows when it has none, and stays whole when
that fails too. A blank text has no chunks. -/

namespace Courseware.Chunk

/-- The chunks cut by windows, or the whole text as one chunk when there are none. -/
def splitByWindows (budget : ChunkBudget) (text : String) : List Chunk :=
  match Window.chunks budget text with
  | .ok (first :: rest) => first :: rest
  | .ok [] | .error _ => [⟨text, 0⟩]

/-- The chunks of a text. -/
def split (budget : ChunkBudget) (text : String) : List Chunk :=
  if Text.blank text then []
  else if Token.estimate text.toList ≤ budget.maxTokens then [⟨text, 0⟩]
  else
    match Segment.chunks budget text with
    | .ok chunks => chunks
    | .error _ => splitByWindows budget text

end Courseware.Chunk
