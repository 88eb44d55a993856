import Courseware.Json.Printer
import Courseware.Material.Basic

/-! # Aliases

A field may come under several names. Every field has a list of **aliases** in order of priority,
and the first one that is present and not `null` counts (`Response.firstPresent`). -/

namespace Courseware.Response

open Json

/-- Names of the question of a quiz item. -/
def questionAliases : List String := ["question", "prompt", "text"]

/-- Names of the options of a quiz item. -/
def optionsAliases : List String := ["options", "choices", "answers"]

/-- Names of the correct answer of a quiz item. -/
def correctAliases : List String :=
  ["correctIndex", "correct_index", "correctanswer", "correctAnswer", "correct_answer",
   "answerIndex", "answer_index", "answer", "correct"]

/-- Names of the explanation of a quiz item. -/
def explanationAliases : List String := ["explanation", "why", "rationale"]

/-- Names of the difficulty of an item. -/
def difficultyAliases : List String := ["difficulty", "level"]

/-- Names of the question of a card. -/
def cardQuestionAliases : List String := ["question", "front", "term", "prompt"]

/-- Names of the answer of a card. -/
def cardAnswerAliases : List String := ["answer", "back", "definition", "response"]

/-- Names of the central topic of a mind map. -/
def centralAliases : List String := ["central", "central_topic", "centralTopic", "root"]

/-- Names of the branches of a mind map. -/
def branchesAliases : List String := ["branches", "children"]

/-- Names of the topic of a branch. -/
def topicAliases : List String := ["topic", "name", "title"]

/-- Names of the subtopics of a branch. -/
def subtopicsAliases : List String := ["subtopics", "sub_topics", "subTopics", "children"]

/-- Names under which a collection may be wrapped in an object. -/
def collectionNames : List String := ["flashcards", "cards", "questions", "quiz", "items"]

/-- An object as it was written. -/
abbrev Members := List (String × Json)

/-- The value under the first alias that is present and not `null`. -/
def firstPresent (aliases : List String) (item : Members) : Option Json :=
  (aliases.filterMap fun name => find? name item).find? fun value => !value.isNull

/-- The text of a value without parts: a text, a number or a truth value. -/
def scalarText : Json → Option String
  | .string s => some s
  | .number n => some (String.ofList n.render)
  | .bool true => some "true"
  | .bool false => some "false"
  | _ => none

/-- The trimmed text under the first alias, unless it is blank. -/
def textField (aliases : List String) (item : Members) : Option String :=
  (((firstPresent aliases item).bind scalarText).map Text.trimmed).filter (· ≠ "")

/-- The difficulty of an item; medium when it has none that is known. -/
def difficulty (item : Members) : Difficulty :=
  (((firstPresent difficultyAliases item).bind string?).bind Difficulty.parse?).getD .medium

/-- Why an item of a collection is dropped. -/
inductive ItemDefect where
  /-- The item is no object. -/
  | notAnObject
  /-- It has no question. -/
  | missingQuestion
  /-- It has no answer. -/
  | missingAnswer
  /-- It has no options. -/
  | missingOptions
  /-- Its correct answer is none of its options. -/
  | unresolvedAnswer
  deriving DecidableEq, Repr

/-- The members of an item that is an object. -/
def itemMembers : Json → Except ItemDefect Members
  | .object members => .ok members
  | _ => .error .notAnObject

end Courseware.Response
