import Courseware.Context.Bounded
import Courseware.Json.Value

/-! # Bounded contexts as JSON -/

namespace Courseware

/-- A context and how it was made, as JSON. -/
def BoundedContext.toJson (bounded : BoundedContext) : Json :=
  .object [("text", .string bounded.text), ("task", .string bounded.task.name),
    ("strategy", .string bounded.strategy.name), ("input_tokens", .nat bounded.inputTokens),
    ("output_tokens", .nat bounded.outputTokens), ("chunks_total", .nat bounded.chunksTotal),
    ("chunks_selected", .nat bounded.chunksSelected),
    ("max_chunks", match bounded.maxChunks with
      | some k => .nat k
      | none => .null)]

end Courseware
