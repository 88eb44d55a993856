import Courseware.Text.Search
import Courseware.Text.Blank
import Courseware.Task

/-! # Study material

What a task yields when its response is sound: a **mind map**, a set of **flashcards**, a set of
**questions** with four options each, or plain text. -/

namespace Courseware

/-- How hard an item is. -/
inductive Difficulty where
  | easy
  | medium
  | hard
  deriving DecidableEq, Repr

namespace Difficulty

instance : Inhabited Difficulty := ⟨medium⟩

/-- The name of a difficulty. -/
def name : Difficulty → String
  | easy => "easy"
  | medium => "medium"
  | hard => "hard"

/-- The difficulty with exactly this name. -/
def ofName? : String → Option Difficulty
  | "easy" => some easy
  | "medium" => some medium
  | "hard" => some hard
  | _ => none

/-- The difficulty a text means: blanks around it and the case of ASCII letters do not matter, and
every difficulty has further names. -/
def parse? (text : String) : Option Difficulty :=
  match String.ofList (Text.lowercase (Text.trim text.toList)) with
  | "easy" | "beginner" | "low" => some easy
  | "medium" | "moderate" | "intermediate" => some medium
  | "hard" | "difficult" | "advanced" | "high" => some hard
  | _ => none

@[simp] theorem ofName?_name (d : Difficulty) : ofName? d.name = some d := by cases d <;> rfl

end Difficulty

/-- A branch of a mind map. -/
structure Branch where
  /-- What the branch is about. -/
  topic : String
  /-- What belongs to it. -/
  subtopics : List String
  deriving DecidableEq, Repr

/-- A question with its answer. -/
structure Flashcard where
  /-- The question. -/
  question : String
  /-- The answer. -/
  answer : String
  /-- How hard it is. -/
  difficulty : Difficulty
  deriving DecidableEq, Repr

/-- A question with four options to choose from. -/
structure Question where
  /-- The question. -/
  question : String
  /-- The options; those that are not used are empty. -/
  options : Vector String 4
  /-- The place of the correct option, from zero. -/
  correct : Nat
  /-- Why it is correct; may be empty. -/
  explanation : String
  /-- How hard it is. -/
  difficulty : Difficulty
  deriving DecidableEq, Repr

/-- Study material of any kind. -/
inductive Material where
  /-- A topic with its branches. -/
  | mindMap (central : String) (branches : List Branch)
  /-- A text. -/
  | freeText (body : String)
  /-- A set of cards. -/
  | flashcards (items : List Flashcard)
  /-- A set of questions. -/
  | questions (items : List Question)
  deriving DecidableEq, Repr

namespace Material

/-- The number of branches or items; a text counts as one. -/
def count : Material → Nat
  | mindMap _ branches => branches.length
  | freeText _ => 1
  | flashcards items => items.length
  | questions items => items.length

/-- Whether there are no branches or items. -/
def isEmpty (material : Material) : Bool := material.count == 0

/-- Whether material is of the kind that a task yields. -/
def suits : Task → Material → Bool
  | .mindmap, mindMap .. => true
  | .flashcard, flashcards _ => true
  | .quiz, questions _ => true
  | .podcast, freeText _ | .video, freeText _ | .report, freeText _ | .unknown, freeText _ => true
  | _, _ => false

end Material

end Courseware
