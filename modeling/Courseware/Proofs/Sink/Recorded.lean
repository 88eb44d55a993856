import Courseware.Sink.Basic

/-! # Recorded sinks

Sinks become ones that keep what they are told and what they answer. Recording does not change the
answers, so a run of the program with recorded sinks shows what the program tells the sinks
themselves. -/

namespace Courseware.Sinks

/-- **What sinks are told.** -/
inductive Call where
  /-- To store the material of a unit for a task. -/
  | store (unit : String) (task : Task) (material : Material)
  /-- To mark a unit and task as failed. -/
  | record (unit : String) (task : Task) (message : String)
  /-- To remove the mark of a unit and task. -/
  | clear (unit : String) (task : Task)
  /-- To send an alert. -/
  | notify (subject message : String)

/-- **A call with its answer.** -/
structure Entry where
  /-- What the sinks were told. -/
  call : Call
  /-- Whether that succeeded. -/
  answer : Delivered

variable {ρ : Type}

/-- What sinks do about a call. -/
def handle (sinks : Sinks ρ) : Call → ρ → Delivered × ρ
  | .store unit task material => sinks.store unit task material
  | .record unit task message => sinks.record unit task message
  | .clear unit task => sinks.clear unit task
  | .notify subject message => sinks.notify subject message

/-- What sinks do about a call, with the call kept behind those before. -/
def keeping (sinks : Sinks ρ) (call : Call) (state : ρ × List Entry) :
    Delivered × (ρ × List Entry) :=
  let (answer, next) := sinks.handle call state.1
  (answer, next, state.2 ++ [⟨call, answer⟩])

/-- **Sinks whose calls are recorded** next to their own state, in the order in which they are
made. -/
def recorded (sinks : Sinks ρ) : Sinks (ρ × List Entry) where
  store unit task material := sinks.keeping (.store unit task material)
  record unit task message := sinks.keeping (.record unit task message)
  clear unit task := sinks.keeping (.clear unit task)
  notify subject message := sinks.keeping (.notify subject message)

end Courseware.Sinks
