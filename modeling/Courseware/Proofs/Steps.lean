/-! # Steps that may fail

Readers and validators are made of steps, each of which gives a result or fails. Such a chain of
steps has a result exactly when every step has one. -/

namespace Courseware

variable {ε α β : Type}

/-- A step that follows another one succeeds when both do. -/
theorem bind_eq_ok_iff {step : Except ε α} {next : α → Except ε β} {b : β} :
    step >>= next = .ok b ↔ ∃ a, step = .ok a ∧ next a = .ok b := by
  cases step with
  | error e => exact ⟨nofun, nofun⟩
  | ok a =>
      constructor
      · exact fun h => ⟨a, rfl, h⟩
      · rintro ⟨_, hstep, h⟩
        cases hstep
        exact h

/-- What is made of the result of a step is there when the step succeeds. -/
theorem map_eq_ok_iff {step : Except ε α} {f : α → β} {b : β} :
    step.map f = .ok b ↔ ∃ a, step = .ok a ∧ f a = b := by
  cases step with
  | error e => exact ⟨nofun, nofun⟩
  | ok a => simp [Except.map]

end Courseware
