import Courseware.Material.Basic

/-! # Sinks

What a run gives out goes to **sinks**: material to a store, failures to a log that keeps the last
one of every unit and task, and alerts to operators. Every call may fail. -/

namespace Courseware

/-- Why a sink failed. -/
inductive SinkError where
  /-- Nothing was stored. -/
  | storage (message : String)
  /-- Nothing was delivered. -/
  | delivery (message : String)
  deriving DecidableEq, Repr

/-- The text of a sink error. -/
def SinkError.message : SinkError → String
  | .storage message => "storage error: " ++ message
  | .delivery message => "delivery failed: " ++ message

/-- Whether a call to a sink succeeded. -/
abbrev Delivered := Except SinkError Unit

/-- The sinks of a run, with a common state of type `ρ`. -/
structure Sinks (ρ : Type) where
  /-- Stores the material of a unit for a task in place of any before. -/
  store : String → Task → Material → ρ → Delivered × ρ
  /-- Marks a unit and task as failed, with a message. -/
  record : String → Task → String → ρ → Delivered × ρ
  /-- Removes the mark of a unit and task. -/
  clear : String → Task → ρ → Delivered × ρ
  /-- Sends an alert with a subject and a message. -/
  notify : String → String → ρ → Delivered × ρ

end Courseware
