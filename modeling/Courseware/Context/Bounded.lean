import Courseware.Chunk.Split
import Courseware.Relevance.Retrieval
import Courseware.Context.Limits
import Courseware.Context.Truncation

/-! # Bounded contexts

`Bounding.bound` reduces a text to a context of limited size, and never fails. A small text is its
own context. A larger one is split, and its most relevant chunks are joined and cut to the ceiling
(`Bounding.tryBound`). Where that fails the text is truncated (`Bounding.fallbackTruncate`), and
where that fails too its first bytes serve. -/

namespace Courseware

/-- How a context was made. -/
inductive BoundingStrategy where
  /-- The text itself. -/
  | passthrough
  /-- Its most relevant chunks. -/
  | retrieved
  /-- Its start, after a note. -/
  | fallbackTruncated
  /-- Its first bytes. -/
  | emergency
  deriving DecidableEq, Repr

/-- The name of a strategy. -/
def BoundingStrategy.name : BoundingStrategy → String
  | .passthrough => "passthrough"
  | .retrieved => "retrieved"
  | .fallbackTruncated => "fallback_truncated"
  | .emergency => "emergency"

/-- Whether a context was made without retrieval although the text was too large. -/
def BoundingStrategy.isDegraded : BoundingStrategy → Bool
  | .fallbackTruncated | .emergency => true
  | .passthrough | .retrieved => false

/-- Why no context can be made in some way. -/
inductive BoundingError where
  /-- The text has no chunks. -/
  | noChunks
  /-- No chunk was selected. -/
  | noRelevantChunks
  /-- The context would be empty. -/
  | emptyContext
  /-- The ceiling leaves no room. -/
  | ceilingTooSmall (ceiling : Nat)
  deriving DecidableEq, Repr

/-- The text of a bounding error. -/
def BoundingError.message : BoundingError → String
  | .noChunks => "chunking produced no chunks"
  | .noRelevantChunks => "retrieval selected no chunks"
  | .emptyContext => "combined context is empty"
  | .ceilingTooSmall ceiling =>
    "output ceiling of " ++ toString ceiling ++ " tokens leaves no room for content"

/-- A context and how it was made. -/
structure BoundedContext where
  /-- The context. -/
  text : String
  /-- The task it was made for. -/
  task : Task
  /-- How it was made. -/
  strategy : BoundingStrategy
  /-- Tokens of the source text. -/
  inputTokens : Nat
  /-- Tokens of the context. -/
  outputTokens : Nat
  /-- Chunks of the source text. -/
  chunksTotal : Nat
  /-- Chunks in the context. -/
  chunksSelected : Nat
  /-- The most chunks that could be in the context, when chunks were selected. -/
  maxChunks : Option Nat
  deriving DecidableEq, Repr

/-- What contexts are made by. -/
structure Bounding where
  /-- The limits. -/
  limits : Limits := {}
  /-- The relevance of chunks. -/
  scoring : Scoring := {}

namespace Bounding

/-- The note before a truncated text. -/
def truncationNote : String :=
  "\n\n[Note: Content has been truncated due to length. "
    ++ "This is a partial view of the full material.]\n\n"

/-- Whether a text is too large to be its own context. -/
def needed (bounding : Bounding) (text : String) : Bool :=
  bounding.limits.threshold < Token.estimate text.toList

/-- The context made of the most relevant chunks. -/
def tryBound (bounding : Bounding) (task : Task) (text : String) :
    Except BoundingError BoundedContext :=
  let ceiling := bounding.limits.ceiling
  if ceiling = 0 then .error (.ceilingTooSmall ceiling)
  else
    let chunks := Chunk.split bounding.limits.budget text
    let selected := bounding.scoring.retrieve task task.maxChunks chunks
    let combined := (Chunk.combine selected).toList
    if chunks.isEmpty then .error .noChunks
    else if selected.isEmpty then .error .noRelevantChunks
    else if Text.isBlankText combined then .error .emptyContext
    else
      let cut := Truncation.truncate ceiling combined
      .ok {
        text := String.ofList cut
        task := task
        strategy := .retrieved
        inputTokens := Token.estimate text.toList
        outputTokens := Token.estimate cut
        chunksTotal := chunks.length
        chunksSelected := selected.length
        maxChunks := some task.maxChunks }

/-- The text itself when it is within the ceiling, and otherwise its start after a note. One token
is kept back, because the estimates of two texts may add up to one less than that of both
together. -/
def fallbackTruncate (bounding : Bounding) (text : String) : Except BoundingError String :=
  let ceiling := bounding.limits.ceiling
  let reserved := Token.estimate truncationNote.toList + 1
  if Token.estimate text.toList ≤ ceiling then .ok text
  else if ceiling ≤ reserved then .error (.ceilingTooSmall ceiling)
  else
    match Truncation.truncate (ceiling - reserved) text.toList with
    | [] => .error .emptyContext
    | body => .ok (truncationNote ++ String.ofList body)

/-- A context made without chunks. -/
def withoutChunks (task : Task) (strategy : BoundingStrategy) (inputTokens : Nat) (text : String) :
    BoundedContext where
  text := text
  task := task
  strategy := strategy
  inputTokens := inputTokens
  outputTokens := Token.estimate text.toList
  chunksTotal := 0
  chunksSelected := 0
  maxChunks := none

/-- The context made without retrieval. -/
def degrade (bounding : Bounding) (task : Task) (text : String) : BoundedContext :=
  let tokens := Token.estimate text.toList
  match bounding.fallbackTruncate text with
  | .ok truncated => withoutChunks task .fallbackTruncated tokens truncated
  | .error _ =>
    withoutChunks task .emergency tokens
      (String.ofList (Text.takeBytes bounding.limits.emergencyBytes text.toList))

/-- The context of a text for a task. -/
def bound (bounding : Bounding) (task : Task) (text : String) : BoundedContext :=
  if bounding.needed text then
    match bounding.tryBound task text with
    | .ok bounded => bounded
    | .error _ => bounding.degrade task text
  else withoutChunks task .passthrough (Token.estimate text.toList) text

end Bounding

end Courseware
