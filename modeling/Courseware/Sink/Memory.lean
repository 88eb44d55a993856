import Courseware.Text.Blank
import Courseware.Sink.Basic

/-! # Sinks in memory

Tables over pairs of a unit and a task. The store keeps the last material of every pair. The
failure log keeps the last message of every pair, trimmed, and ignores units with a blank name.
Alerts are kept in the order in which they were sent. -/

namespace Courseware

/-- A unit and a task. -/
abbrev Slot := String × Task

/-- A table over units and tasks; every slot occurs once. -/
structure Table (α : Type) where
  /-- The entries. -/
  entries : List (Slot × α)

namespace Table

variable {α : Type}

/-- The table without entries. -/
def empty : Table α := ⟨[]⟩

/-- The value in a slot. -/
def get? (table : Table α) (slot : Slot) : Option α :=
  (table.entries.find? fun entry => entry.1 == slot).map (·.2)

/-- The table without a slot. -/
def erase (table : Table α) (slot : Slot) : Table α :=
  ⟨table.entries.filter fun entry => entry.1 != slot⟩

/-- The table with a value in a slot. -/
def insert (table : Table α) (slot : Slot) (value : α) : Table α :=
  ⟨(slot, value) :: (table.erase slot).entries⟩

/-- The number of slots with a value. -/
def size (table : Table α) : Nat := table.entries.length

/-- The values of a unit, in the order of the tasks. -/
def forUnit (table : Table α) (unit : String) : List (Task × α) :=
  Task.all.filterMap fun task => (table.get? (unit, task)).map fun value => (task, value)

end Table

/-- Stored material, marked failures and sent alerts. -/
structure Memory where
  /-- The material. -/
  results : Table Material := .empty
  /-- The messages of the failures. -/
  failures : Table String := .empty
  /-- The alerts, the last one first. -/
  alerts : List (String × String) := []

namespace Memory

/-- The memory with a result. -/
def store (memory : Memory) (unit : String) (task : Task) (material : Material) : Memory :=
  { memory with results := memory.results.insert (unit, task) material }

/-- The memory with a failure, unless the name of the unit is blank. -/
def record (memory : Memory) (unit : String) (task : Task) (message : String) : Memory :=
  if Text.blank unit then memory
  else { memory with failures := memory.failures.insert (unit, task) (Text.trimmed message) }

/-- The memory without the failure of a unit and task. -/
def clear (memory : Memory) (unit : String) (task : Task) : Memory :=
  { memory with failures := memory.failures.erase (unit, task) }

/-- The memory with an alert. -/
def notify (memory : Memory) (subject message : String) : Memory :=
  { memory with alerts := (subject, message) :: memory.alerts }

/-- Sinks that write to memory and never fail. -/
def sinks : Sinks Memory where
  store := fun unit task material memory => (.ok (), memory.store unit task material)
  record := fun unit task message memory => (.ok (), memory.record unit task message)
  clear := fun unit task memory => (.ok (), memory.clear unit task)
  notify := fun subject message memory => (.ok (), memory.notify subject message)

end Memory

end Courseware
