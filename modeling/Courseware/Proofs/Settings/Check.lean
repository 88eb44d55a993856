import Courseware.Settings.Check

/-! # What the check of settings ensures

Settings are accepted exactly when they break none of the rules (`check_eq_ok_iff`). The limits of
accepted settings leave room for a context (`Limits.Sound`). -/

namespace Courseware

/-- **Limits that leave room for a context.** -/
structure Limits.Sound (limits : Limits) : Prop where
  /-- A reduced context may have a token. -/
  ceiling_pos : 0 < limits.ceiling
  /-- A text that is its own context is no larger than a reduced one. -/
  threshold_le : limits.threshold ≤ limits.ceiling
  /-- A chunk may have a token. -/
  chunkSize_pos : 0 < limits.chunkSize
  /-- A chunk has more than it shares with the one before. -/
  overlap_lt : limits.overlap < limits.chunkSize

namespace Settings

variable {s : Settings}

/-- Settings are accepted when they break none of the rules. -/
theorem check_eq_ok_iff : s.check = .ok () ↔ ∀ rule ∈ s.faults, rule.1 = false := by
  rw [check]
  cases hfind : s.faults.find? (·.1) with
  | none => simpa using hfind
  | some rule =>
      have hmem := List.mem_of_find?_eq_some hfind
      have hbroken := List.find?_some hfind
      constructor
      · intro h
        cases h
      · intro h
        rw [h rule hmem] at hbroken
        cases hbroken

/-- **Accepted settings have limits that leave room.** -/
theorem limits_sound (h : s.check = .ok ()) : s.limits.Sound := by
  have hkept := check_eq_ok_iff.mp h
  simp only [faults, List.forall_mem_cons, decide_eq_false_iff_not] at hkept
  obtain ⟨-, -, hceiling, hthreshold, hchunk, hoverlap, -⟩ := hkept
  exact ⟨Nat.pos_of_ne_zero hceiling, Nat.le_of_not_lt hthreshold, Nat.pos_of_ne_zero hchunk,
    Nat.lt_of_not_le hoverlap⟩

end Settings

end Courseware
