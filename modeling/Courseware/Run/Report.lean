import Courseware.Context.Bounded

/-! # Run reports

What came of a run over the tasks of one unit. -/

namespace Courseware

/-- What came of a task. -/
inductive TaskStatus where
  /-- Its material was generated and stored. -/
  | succeeded (attempts items : Nat)
  /-- It was not. -/
  | failed (error : String)
  deriving DecidableEq, Repr

/-- Whether a task succeeded. -/
def TaskStatus.isSuccess : TaskStatus → Bool
  | .succeeded .. => true
  | .failed _ => false

/-- A task with its context and what came of it. -/
structure TaskReport where
  /-- The task. -/
  task : Task
  /-- How its context was made. -/
  strategy : BoundingStrategy
  /-- The tokens of its context. -/
  contextTokens : Nat
  /-- What came of it. -/
  status : TaskStatus
  deriving DecidableEq, Repr

/-- What came of a run. -/
structure RunReport where
  /-- The unit. -/
  unit : String
  /-- The tasks, in the order in which they were worked through. -/
  tasks : List TaskReport
  deriving DecidableEq, Repr

namespace RunReport

/-- How many tasks succeeded. -/
def succeeded (report : RunReport) : Nat := report.tasks.countP (·.status.isSuccess)

/-- How many tasks failed. -/
def failed (report : RunReport) : Nat := report.tasks.length - report.succeeded

end RunReport

/-- Why a run has no report. -/
inductive RunError where
  /-- The source of the unit is blank. -/
  | emptySource (unit : String)
  /-- No known task is enabled. -/
  | nothingEnabled
  /-- Every task failed. -/
  | allTasksFailed (unit : String) (failed : Nat)
  deriving DecidableEq, Repr

/-- The text of a run error. -/
def RunError.message : RunError → String
  | .emptySource unit => "source text for unit " ++ unit ++ " is empty"
  | .nothingEnabled => "no task types are enabled"
  | .allTasksFailed unit failed =>
    "all " ++ toString failed ++ " enabled task type(s) failed for unit " ++ unit

end Courseware
