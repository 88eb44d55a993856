import Courseware.Json.Record
import Courseware.Material.Basic

/-! # Study material as JSON

Material is written as an object whose member `kind` names its kind. Reading takes every record in
either form, as an object or as an array of its fields, and also material as an array that begins
with the kind. -/

namespace Courseware

open Json

namespace Difficulty

/-- A difficulty as JSON. -/
def toJson (d : Difficulty) : Json := .string d.name

/-- Reads a difficulty. -/
def ofJson? (json : Json) : Option Difficulty := (choice? json).bind ofName?

end Difficulty

namespace Branch

/-- A branch as JSON. -/
def toJson (branch : Branch) : Json :=
  .object [("topic", .string branch.topic), ("subtopics", .array (branch.subtopics.map .string))]

/-- Reads a branch; it has no subtopics when they are missing. -/
def ofJson? (json : Json) : Option Branch := do
  match ← fields? ["topic", "subtopics"] json with
  | [topic, subtopics] =>
    return ⟨← required string? topic, ← withDefault [] (listOf? string?) subtopics⟩
  | _ => none

end Branch

namespace Flashcard

/-- A card as JSON. -/
def toJson (card : Flashcard) : Json :=
  .object [("question", .string card.question), ("answer", .string card.answer),
    ("difficulty", card.difficulty.toJson)]

/-- Reads a card. -/
def ofJson? (json : Json) : Option Flashcard := do
  match ← fields? ["question", "answer", "difficulty"] json with
  | [question, answer, difficulty] =>
    return ⟨← required string? question, ← required string? answer,
      ← required Difficulty.ofJson? difficulty⟩
  | _ => none

end Flashcard

namespace Question

/-- A question as JSON. -/
def toJson (q : Question) : Json :=
  .object [("question", .string q.question), ("options", .array (q.options.toList.map .string)),
    ("correct_index", .nat q.correct), ("explanation", .string q.explanation),
    ("difficulty", q.difficulty.toJson)]

/-- Reads exactly four options. -/
def options? (json : Json) : Option (Vector String 4) := do
  match ← listOf? string? json with
  | [a, b, c, d] => return #v[a, b, c, d]
  | _ => none

/-- Reads a question. The place of the correct option is a whole number of 8 bits. -/
def ofJson? (json : Json) : Option Question := do
  match ← fields? ["question", "options", "correct_index", "explanation", "difficulty"] json with
  | [question, options, correct, explanation, difficulty] =>
    return ⟨← required string? question, ← required options? options,
      ← required (below? (Nat.pow 2 8)) correct, ← required string? explanation,
      ← required Difficulty.ofJson? difficulty⟩
  | _ => none

end Question

namespace Material

/-- The name of the kind of material. -/
def kind : Material → String
  | mindMap .. => "mind_map"
  | freeText _ => "free_text"
  | flashcards _ => "flashcard_set"
  | questions _ => "quiz_set"

/-- The members of material that follow its kind. -/
def members : Material → List (String × Json)
  | mindMap central branches =>
    [("central", .string central), ("branches", .array (branches.map Branch.toJson))]
  | freeText body => [("body", .string body)]
  | flashcards items => [("items", .array (items.map Flashcard.toJson))]
  | questions items => [("items", .array (items.map Question.toJson))]

/-- Material as JSON. -/
def toJson (material : Material) : Json :=
  .object (("kind", .string material.kind) :: material.members)

/-- Reads material of a kind from what follows the kind. -/
def ofKind? (kind : String) (content : Json) : Option Material :=
  match kind with
  | "mind_map" => do
    match ← fields? ["central", "branches"] content with
    | [central, branches] =>
      return .mindMap (← required string? central) (← required (listOf? Branch.ofJson?) branches)
    | _ => none
  | "free_text" => do
    match ← fields? ["body"] content with
    | [body] => return .freeText (← required string? body)
    | _ => none
  | "flashcard_set" => do
    match ← fields? ["items"] content with
    | [items] => return .flashcards (← required (listOf? Flashcard.ofJson?) items)
    | _ => none
  | "quiz_set" => do
    match ← fields? ["items"] content with
    | [items] => return .questions (← required (listOf? Question.ofJson?) items)
    | _ => none
  | _ => none

/-- Reads material. -/
def ofJson? : Json → Option Material
  | .array (.string kind :: rest) => ofKind? kind (.array rest)
  | .object members => do
    match ← field? members "kind" with
    | some (.string kind) => ofKind? kind (.object members)
    | _ => none
  | _ => none

end Material

end Courseware
