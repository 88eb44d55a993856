import Courseware.Provider.Basic

/-! # Recorded providers

A provider becomes one that keeps its calls: when they started, what was asked and what was
answered. Recording does not change the answers, so a run of the program with a recorded provider
shows what the program asks of the provider itself. -/

namespace Courseware.Provider

/-- **A call to a provider**, with its answer. -/
structure Call where
  /-- When it started. -/
  start : Nat
  /-- What was asked. -/
  request : Request
  /-- What was answered, and how long that took. -/
  answer : Time.After (Answer Reply)

/-- When a call ended. -/
def Call.finish (call : Call) : Nat := call.start + call.answer.took

variable {σ : Type}

/-- **A provider whose calls are recorded** next to its own state, in the order in which they are
made. -/
def recorded (provider : Provider σ) : Provider (σ × List Call) where
  name := provider.name
  generate now request state :=
    let (answer, next) := provider.generate now request state.1
    (answer, next, state.2 ++ [⟨now, request, answer⟩])
  listModels now state :=
    let (answer, next) := provider.listModels now state.1
    (answer, next, state.2)
  checkHealth now state :=
    let (answer, next) := provider.checkHealth now state.1
    (answer, next, state.2)

/-- A recorded provider answers like the provider and keeps the call. -/
theorem recorded_generate {provider : Provider σ} {now : Nat} {request : Request} {state next : σ}
    {answer : Time.After (Answer Reply)} (calls : List Call)
    (h : provider.generate now request state = (answer, next)) :
    provider.recorded.generate now request (state, calls) =
      (answer, next, calls ++ [⟨now, request, answer⟩]) := by
  simp only [recorded, h]

end Courseware.Provider
