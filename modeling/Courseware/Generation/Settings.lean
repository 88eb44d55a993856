import Courseware.Prompt

/-! # Settings of the tasks

How material is generated for the tasks of a unit, and which tasks are worked through. -/

namespace Courseware

/-- How material is generated for the tasks of a unit. -/
structure TaskSettings where
  /-- How freely the model may answer. -/
  temperature : Float32 := defaultTemperature
  /-- The tokens an answer may have. -/
  maxTokens : Nat := 2000
  /-- How many cards to ask for. -/
  flashcardCount : Nat := 15
  /-- How many questions to ask for. -/
  quizCount : Nat := 15
  /-- The tasks to work through. -/
  enabledTasks : List Task := Task.known

namespace TaskSettings

/-- How many items to ask for, for a collection. -/
def itemCount (settings : TaskSettings) : Task → Option Nat
  | .flashcard => some settings.flashcardCount
  | .quiz => some settings.quizCount
  | .mindmap | .podcast | .video | .report | .unknown => none

/-- The options of a task. -/
def optionsFor (settings : TaskSettings) (task : Task) : GenerationOptions where
  temperature := settings.temperature
  maxTokens := settings.maxTokens
  itemCount := settings.itemCount task

/-- The known tasks that are enabled, each once, in the order of the known tasks. -/
def tasks (settings : TaskSettings) : List Task :=
  Task.known.filter (· ∈ settings.enabledTasks)

end TaskSettings

end Courseware
