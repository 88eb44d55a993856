import Courseware.Relevance.Keyword

/-! # Scoring constants

The relevance of a chunk is a weighted sum of two parts. A task with keywords weighs their density
against the length of the chunk, a task without any weighs the length against the sentences.
`Weights.valid` says which pairs of weights can rank chunks. -/

namespace Courseware

/-- The constants of the relevance score. -/
structure Scoring where
  /-- Weight of the keyword density. -/
  keywordWeight : Float := 0.7
  /-- Weight of the length, beside keywords. -/
  lengthWeight : Float := 0.3
  /-- Factor on the keyword density before it is capped at one. -/
  densityAmplification : Float := 10.0
  /-- Bytes from which the length counts in full, beside keywords. -/
  idealLength : Nat := 2000
  /-- Bytes at which the length counts in full, without keywords. -/
  generalIdealLength : Nat := 1500
  /-- Weight of the length, without keywords. -/
  generalLengthWeight : Float := 0.6
  /-- Weight of the sentences, without keywords. -/
  generalSentenceWeight : Float := 0.4
  /-- Sentences from which their number counts in full. -/
  sentenceSaturation : Nat := 10

/-- The two weights of a score. -/
structure Weights where
  /-- The weight of the first part. -/
  first : Float
  /-- The weight of the second part. -/
  second : Float

/-- Whether a pair of weights can rank chunks: two numbers, none of them negative, whose sum is
positive. -/
def Weights.valid (w : Weights) : Bool :=
  w.first.isFinite && w.second.isFinite && !(w.first < 0 || w.second < 0 || w.first + w.second ≤ 0)

/-- The name under which the weights of a task are reported. -/
def Task.weightsName (task : Task) : String :=
  if task.keywords.isEmpty then "general" else "keyword"

/-- The weights that a task is scored by. -/
def Scoring.weights (scoring : Scoring) (task : Task) : Weights :=
  if task.keywords.isEmpty then ⟨scoring.generalLengthWeight, scoring.generalSentenceWeight⟩
  else ⟨scoring.keywordWeight, scoring.lengthWeight⟩

end Courseware
