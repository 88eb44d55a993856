import Courseware.Relevance.Score

/-! # Retrieval

`Scoring.rank` orders chunks by relevance, the most relevant first and equal ones in the order in
which they came; `Scoring.retrieve` keeps the first few of them, back in the order of the text. -/

namespace Courseware

/-- A chunk with its relevance. -/
structure ScoredChunk where
  /-- The chunk. -/
  chunk : Chunk
  /-- Its relevance. -/
  score : Float

namespace Relevance

/-- The place of a float in the total order of floats, in which negative zero comes before
zero. -/
def orderKey (x : Float) : Int :=
  let bits := x.toBits.toNat
  if bits < Nat.pow 2 63 then bits else -((bits - Nat.pow 2 63 : Nat) : Int) - 1

/-- Whether a scored chunk may stand before another in a ranking. -/
def noLess (a b : ScoredChunk) : Bool := orderKey b.score ≤ orderKey a.score

end Relevance

namespace Scoring

/-- A chunk with its relevance, which is zero when it cannot be scored. -/
def scored (scoring : Scoring) (task : Task) (chunk : Chunk) : ScoredChunk :=
  ⟨chunk, match scoring.score task chunk with | .ok score => score | .error _ => 0⟩

/-- The chunks with their relevance for a task, the most relevant first. Equally relevant chunks
keep their order. -/
def rank (scoring : Scoring) (task : Task) (chunks : List Chunk) :
    Except RetrievalError (List ScoredChunk) :=
  let weights := scoring.weights task
  if weights.valid then .ok ((chunks.map (scoring.scored task)).mergeSort Relevance.noLess)
  else .error (.invalidWeights task.weightsName weights)

/-- At most `limit` chunks, in the order of the text: the most relevant ones, or the first ones
when chunks cannot be ranked. -/
def retrieve (scoring : Scoring) (task : Task) (limit : Nat) (chunks : List Chunk) : List Chunk :=
  if chunks.length ≤ limit then chunks
  else
    match scoring.rank task chunks with
    | .error _ => chunks.take limit
    | .ok ranked => ((ranked.take limit).map (·.chunk)).mergeSort fun a b => a.ordinal ≤ b.ordinal

end Scoring

/-- The texts of chunks with a blank line between them. -/
def Chunk.combine (chunks : List Chunk) : String := "\n\n".intercalate (chunks.map (·.text))

end Courseware
