import Courseware.Text.Blank
import Courseware.Text.Search

/-! # Study tasks

A **task** is a kind of study material that can be made from a text. Six tasks are known; every
other name stands for `Task.unknown`, which all stages treat as a request without a form of its
own. -/

namespace Courseware

/-- The kinds of study material. -/
inductive Task where
  | mindmap
  | podcast
  | video
  | report
  | flashcard
  | quiz
  /-- Any name that is not a known task. -/
  | unknown
  deriving DecidableEq, Repr, Inhabited

/-- What a response to a task looks like. -/
inductive ResponseShape where
  /-- One JSON object. -/
  | object
  /-- A JSON array of items, in which single items may be bad. -/
  | collection
  /-- Text without a form. -/
  | freeText
  deriving DecidableEq, Repr

namespace Task

/-- The known tasks, in the order in which a run works through them. -/
def known : List Task := [mindmap, podcast, video, report, flashcard, quiz]

/-- All tasks in order, the unknown one last. -/
def all : List Task := known ++ [unknown]

/-- The name of a task. -/
def name : Task → String
  | mindmap => "mindmap"
  | podcast => "podcast"
  | video => "video"
  | report => "report"
  | flashcard => "flashcard"
  | quiz => "quiz"
  | unknown => "unknown"

/-- The task with exactly this name; `unknown` for all other texts. -/
def ofName (name : String) : Task :=
  match name with
  | "mindmap" => mindmap
  | "podcast" => podcast
  | "video" => video
  | "report" => report
  | "flashcard" => flashcard
  | "quiz" => quiz
  | _ => unknown

/-- The task a person means: blanks around the name and the case of ASCII letters do not matter,
and two names have a second spelling. -/
def parse (name : String) : Task :=
  match String.ofList (Text.lowercase (Text.trim name.toList)) with
  | "mind_map" => mindmap
  | "flashcards" => flashcard
  | plain => ofName plain

/-- The shape of the responses to a task. -/
def shape : Task → ResponseShape
  | mindmap => .object
  | flashcard | quiz => .collection
  | podcast | video | report | unknown => .freeText

/-- Whether a task is one of the six known ones. -/
def isKnown (task : Task) : Bool := task != unknown

/-- A task is known exactly when it is in the list of known tasks. -/
theorem mem_known_iff (task : Task) : task ∈ known ↔ task.isKnown = true := by
  cases task <;> decide

/-- Reading a task's name gives the task. -/
@[simp] theorem ofName_name (task : Task) : ofName task.name = task := by
  cases task <;> rfl

end Task

/-- The name of a response shape. -/
def ResponseShape.name : ResponseShape → String
  | .object => "JsonObject"
  | .collection => "JsonCollection"
  | .freeText => "FreeText"

end Courseware
