import Courseware.Json.Value
import Courseware.Material.Wire
import Courseware.Run.Report

/-! # Run reports as JSON

A report of a run, with the material it has left in the store. -/

namespace Courseware

/-- The members that say what came of a task. -/
def TaskStatus.members : TaskStatus → List (String × Json)
  | .succeeded attempts items =>
    [("status", .string "succeeded"), ("attempts", .nat attempts), ("items", .nat items)]
  | .failed error => [("status", .string "failed"), ("error", .string error)]

/-- The report of a task as JSON. -/
def TaskReport.toJson (report : TaskReport) : Json :=
  .object ([("task", .string report.task.name), ("strategy", .string report.strategy.name),
    ("context_tokens", .nat report.contextTokens)] ++ report.status.members)

/-- The report of a run as JSON, with the name given to the run. -/
def RunReport.toJson (name : String) (report : RunReport) : Json :=
  .object [("run_id", .string name), ("unit_id", .string report.unit),
    ("tasks", .array (report.tasks.map TaskReport.toJson))]

/-- Material for tasks as JSON. -/
def Material.listToJson (results : List (Task × Material)) : Json :=
  .array (results.map fun (task, material) =>
    .object [("task", .string task.name), ("result", material.toJson)])

end Courseware
