import Courseware.Task
import Courseware.Provider.Wire

/-! # Prompts

The prompt of a known task is its instructions, a separator and the context; the prompt of the
unknown task is the context alone. -/

namespace Courseware

/-- How one text is to be generated. -/
structure GenerationOptions where
  /-- How freely the model may answer. -/
  temperature : Float32 := defaultTemperature
  /-- The tokens the answer may have. -/
  maxTokens : Nat := 2000
  /-- How many items to ask for in a collection. -/
  itemCount : Option Nat := none

namespace GenerationOptions

open Json

/-- Options as JSON. -/
def toJson (options : GenerationOptions) : Json :=
  .object ([("temperature", single options.temperature), ("max_tokens", .nat options.maxTokens)]
    ++ unlessNone "item_count" Json.nat options.itemCount)

/-- Reads options; each of them may be missing. -/
def ofJson? (json : Json) : Option GenerationOptions := do
  match ← fields? ["temperature", "max_tokens", "item_count"] json with
  | [temperature, maxTokens, itemCount] =>
    return ⟨← withDefault defaultTemperature float32? temperature,
      ← withDefault 2000 word? maxTokens, ← nullable size? itemCount⟩
  | _ => none

end GenerationOptions

/-- A task for one context. -/
structure GenerationRequest where
  /-- The task. -/
  task : Task
  /-- The context. -/
  context : String
  /-- The options. -/
  options : GenerationOptions := {}

namespace Prompt

/-- How many items a collection has when no number is given. -/
def defaultItemCount : Nat := 15

/-- What stands between the instructions and the context. -/
def separator : String := "\n\nContent:\n"

/-- The instructions of a task; none for the unknown one. -/
def instructions (count : Nat) : Task → Option String
  | .mindmap => some
    ("Generate a comprehensive mind map structure in JSON format based on the following content. "
      ++ "The mind map should have a central topic and multiple branches with sub-topics. "
      ++ "Format: \x7b\"central\": \"main topic\", \"branches\": [\x7b\"topic\": \"branch1\", "
      ++ "\"subtopics\": [\"sub1\", \"sub2\"]\x7d, ...]\x7d")
  | .podcast => some
    ("Create an engaging podcast script based on the following educational content. "
      ++ "The script should be conversational, informative, and suitable for audio narration. "
      ++ "Include an introduction, main points discussion, and conclusion. "
      ++ "Format it with speaker labels (HOST:) where appropriate.")
  | .video => some
    ("Create a detailed video script for an educational explainer video based on the following "
      ++ "content. Include visual descriptions in [VISUAL: ...] tags and narration. "
      ++ "Make it engaging and educational.")
  | .report => some
    ("Generate a comprehensive educational report based on the following content. "
      ++ "Include: Executive Summary, Key Topics, Detailed Analysis, and Conclusions. "
      ++ "Use proper headings and formatting.")
  | .flashcard => some
    ("Generate " ++ toString count ++ " educational flashcards based on the following content. "
      ++ "Each flashcard should have a question and answer. "
      ++ "Format as JSON: [\x7b\"question\": \"...\", \"answer\": \"...\", "
      ++ "\"difficulty\": \"easy|medium|hard\"\x7d, ...]")
  | .quiz => some
    ("Generate " ++ toString count ++ " multiple-choice quiz questions based on the following "
      ++ "content. Each question should have 4 options with one correct answer. "
      ++ "Format as JSON: [\x7b\"question\": \"...\", \"options\": [\"opt1\", \"opt2\", \"opt3\", "
      ++ "\"opt4\"], \"correctanswer\": 0-3, \"explanation\": \"...\", "
      ++ "\"difficulty\": \"easy|medium|hard\"\x7d, ...]")
  | .unknown => none

/-- The prompt of a request. -/
def build (request : GenerationRequest) : String :=
  match instructions (request.options.itemCount.getD defaultItemCount) request.task with
  | some text => text ++ separator ++ request.context
  | none => request.context

end Prompt

end Courseware
