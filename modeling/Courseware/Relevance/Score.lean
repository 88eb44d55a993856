import Courseware.Text.Search
import Courseware.Chunk.Boundary
import Courseware.Decimal.Layout
import Courseware.Relevance.Scoring

/-! # Relevance scores

`Scoring.score` gives a chunk its relevance for a task, a float from zero to one. A constant that
makes the score infinite or no number at all is an error. The sums and products are evaluated in
the order in which they are written, since floats round at every step. -/

namespace Courseware

open Text

/-- Why chunks cannot be scored. -/
inductive RetrievalError where
  /-- The weights of a task cannot rank chunks. -/
  | invalidWeights (name : String) (weights : Weights)
  /-- The score of a chunk is not finite. -/
  | nonFiniteScore (ordinal : Nat)

/-- The text of a retrieval error. -/
def RetrievalError.message : RetrievalError → String
  | .invalidWeights name weights =>
    "scoring weights are invalid: " ++ name ++ " weights "
      ++ Decimal.Layout.plain.float weights.first ++ " and "
      ++ Decimal.Layout.plain.float weights.second ++ " must be non-negative with a positive sum"
  | .nonFiniteScore ordinal => "chunk " ++ toString ordinal ++ " scored a non-finite value"

namespace Relevance

/-- The lesser of a float and a limit; the limit when the float is no number. -/
def atMost (limit x : Float) : Float := if x < limit then x else limit

/-- The greater of a float and a limit; the limit when the float is no number. -/
def atLeast (limit x : Float) : Float := if limit < x then x else limit

/-- A float moved into the range from zero to one; what is no number stays. -/
def clampUnit (x : Float) : Float := if x < 0 then 0 else if 1 < x then 1 else x

/-- The number of sentences that are followed by a blank. -/
def sentenceCount (cs : List Char) : Nat := (Boundary.sentenceEnds cs).length

/-- The bytes that keywords take up in a text. ASCII letters match in either case. -/
def keywordBytes (keywords : List String) (cs : List Char) : Nat :=
  let lower := lowercase cs
  keywords.foldl (fun bytes keyword => bytes + count keyword.toList lower * size keyword) 0

end Relevance

namespace Scoring

open Relevance

/-- The score by keywords and length. -/
def keywordScore (scoring : Scoring) (keywords : List String) (cs : List Char) : Float :=
  let length := Float.ofNat (byteLength cs)
  let weight := keywordBytes keywords cs
  let density :=
    if 0 < weight then clampUnit (Float.ofNat weight / length * scoring.densityAmplification) else 0
  let lengthScore := atMost 1 (length / Float.ofNat scoring.idealLength)
  density * scoring.keywordWeight + lengthScore * scoring.lengthWeight

/-- The score by length and sentences. -/
def generalScore (scoring : Scoring) (cs : List Char) : Float :=
  let ideal := Float.ofNat scoring.generalIdealLength
  let distance := (Float.ofNat (byteLength cs) - ideal).abs
  let lengthScore := atLeast 0 (1 - distance / ideal)
  let sentences := Float.ofNat (sentenceCount cs)
  let sentenceScore := atMost 1 (sentences / Float.ofNat scoring.sentenceSaturation)
  lengthScore * scoring.generalLengthWeight + sentenceScore * scoring.generalSentenceWeight

/-- The relevance of a chunk for a task, from zero to one. An empty chunk has none. -/
def score (scoring : Scoring) (task : Task) (chunk : Chunk) : Except RetrievalError Float :=
  let cs := chunk.text.toList
  if cs.isEmpty then .ok 0
  else
    let raw :=
      if task.keywords.isEmpty then scoring.generalScore cs
      else scoring.keywordScore task.keywords cs
    if raw.isFinite then .ok (clampUnit raw) else .error (.nonFiniteScore chunk.ordinal)

end Scoring

end Courseware
