import Courseware.Proofs.Relevance.Selection
import Courseware.Proofs.Settings.Check

/-! # What the check of settings says of temperatures and weights

The check refuses a temperature that is too low or too high, and weights whose sum is not positive,
by comparisons that fail for what is not a number. Ranking asks more of weights: that both are
finite and that none is negative (`Weights.valid_iff`). So with accepted settings the temperature is
between the bounds unless it is not a number, and chunks can be ranked for a task exactly when its
weights are finite and not negative; with others retrieval keeps the first chunks
(`Settings.ranking_of_check`). -/

namespace Courseware

open Float.Model (UnpackedFloat)

/-! ## Comparing the other way around -/

namespace Relevance

/-- **Turning the sides around turns a comparison around.** -/
theorem compare_swap (u v : UnpackedFloat) : (u.compare v).map Ordering.swap = v.compare u := by
  rcases u with (_ | _) | _ | (_ | _) | ⟨_ | _, m, e, _⟩ <;>
  rcases v with (_ | _) | _ | (_ | _) | ⟨_ | _, l, f, _⟩
  -- Two finite numbers of one sign are compared by their parts.
  case finite.negative.finite.negative | finite.positive.finite.positive =>
    simp only [UnpackedFloat.compare, Option.map_some, Ordering.swap_then, Int.compare_swap,
      Nat.compare_swap]
  all_goals rfl

/-- Numbers can be compared. -/
theorem exists_compare_eq_some {u v : UnpackedFloat} (hu : u.isNaN = false) (hv : v.isNaN = false) :
    ∃ o, u.compare v = some o := by
  rcases u with (_ | _) | _ | (_ | _) | ⟨_ | _, m, e, _⟩ <;>
  rcases v with (_ | _) | _ | (_ | _) | ⟨_ | _, l, f, _⟩ <;>
  first
  | exact ⟨_, rfl⟩
  | exact absurd hu (by decide)
  | exact absurd hv (by decide)

/-- What is not a number cannot be compared. -/
theorem compare_eq_none {u v : UnpackedFloat} (hv : v.isNaN = true) : u.compare v = none := by
  cases v with
  | notANumber => rcases u with (_ | _) | _ | (_ | _) | ⟨_ | _, _, _, _⟩ <;> rfl
  | infinity s => cases hv
  | zero s => cases hv
  | finite s m e => cases hv

section Single

variable {x y : Float32}

/-- One side is at most the other when they are compared so. -/
theorem single_le_iff_compare :
    x ≤ y ↔ (x.toModel.unpack.compare y.toModel.unpack).any Ordering.isLE = true :=
  decide_eq_true_iff

/-- **A number is at most another one unless it is greater.** -/
theorem single_le_iff (hx : x.isNaN = false) (hy : y.isNaN = false) : x ≤ y ↔ ¬ y < x := by
  have hlt : y < x ↔ (y.toModel.unpack.compare x.toModel.unpack == some .lt) = true :=
    decide_eq_true_iff
  obtain ⟨o, ho⟩ := exists_compare_eq_some (u := y.toModel.unpack) (v := x.toModel.unpack) hy hx
  -- Both sides are about the one comparison, of the second number with the first.
  rw [single_le_iff_compare, hlt, ← compare_swap, ho]
  cases o <;> decide

/-- Nothing is at most what is not a number. -/
theorem isNaN_of_single_le (h : x ≤ y) : y.isNaN = false := by
  rw [single_le_iff_compare] at h
  by_contra hy
  rw [compare_eq_none (Bool.eq_true_of_not_eq_false hy)] at h
  cases h

end Single

end Relevance

/-! ## Weights that can rank chunks -/

/-- **Weights that are finite and not negative.** -/
structure Weights.Sound (w : Weights) : Prop where
  /-- The first weight is finite. -/
  first_finite : w.first.isFinite = true
  /-- The second weight is finite. -/
  second_finite : w.second.isFinite = true
  /-- The first weight is not negative. -/
  first_nonneg : ¬ w.first < 0
  /-- The second weight is not negative. -/
  second_nonneg : ¬ w.second < 0

/-- **Weights can rank chunks when they are finite and not negative** and their sum is not at most
zero. -/
theorem Weights.valid_iff {w : Weights} :
    w.valid = true ↔ w.Sound ∧ ¬ w.first + w.second ≤ 0 := by
  simp only [valid, Bool.and_eq_true, Bool.not_eq_true', Bool.or_eq_false_iff,
    decide_eq_false_iff_not]
  constructor
  · rintro ⟨⟨hfirst, hsecond⟩, ⟨hfirst', hsecond'⟩, hsum⟩
    exact ⟨⟨hfirst, hsecond, hfirst', hsecond'⟩, hsum⟩
  · rintro ⟨⟨hfirst, hsecond, hfirst', hsecond'⟩, hsum⟩
    exact ⟨⟨hfirst, hsecond⟩, ⟨hfirst', hsecond'⟩, hsum⟩

/-! ## What the check says -/

namespace Settings

variable {s : Settings}

/-- **The temperature of accepted settings is between the bounds unless it is not a number.** -/
theorem temperature_of_check (h : s.check = .ok ()) :
    0.0 ≤ s.generation.temperature ∧ s.generation.temperature ≤ 2.0 ↔
      s.generation.temperature.isNaN = false := by
  have hkept := check_eq_ok_iff.mp h
  simp only [faults, List.forall_mem_cons, Bool.or_eq_false_iff, decide_eq_false_iff_not] at hkept
  obtain ⟨⟨hlow, hhigh⟩, -⟩ := hkept
  -- It is not below the one bound and not above the other; only a number is then between them.
  constructor
  · rintro ⟨hzero, -⟩
    exact Relevance.isNaN_of_single_le hzero
  · intro hnumber
    exact ⟨(Relevance.single_le_iff (by decide +kernel) hnumber).mpr hlow,
      (Relevance.single_le_iff hnumber (by decide +kernel)).mpr hhigh⟩

/-- The weights of accepted settings have no sum that is at most zero. -/
theorem sum_weights_of_check (h : s.check = .ok ()) (task : Task) :
    ¬ (s.scoring.weights task).first + (s.scoring.weights task).second ≤ 0 := by
  have hkept := check_eq_ok_iff.mp h
  simp only [faults, List.forall_mem_cons, decide_eq_false_iff_not] at hkept
  obtain ⟨-, -, -, -, -, -, -, -, hkeyword, hgeneral, -⟩ := hkept
  rw [Scoring.weights]
  split
  · exact hgeneral
  · exact hkeyword

/-- With accepted settings, the weights of a task can rank chunks when they are finite and not
negative. -/
theorem valid_weights_of_check (h : s.check = .ok ()) (task : Task) :
    (s.scoring.weights task).valid = true ↔ (s.scoring.weights task).Sound := by
  rw [Weights.valid_iff, and_iff_left (sum_weights_of_check h task)]

/-- **What the check of settings leaves open.** With accepted settings the temperature is between
the bounds unless it is not a number. Chunks can be ranked for a task when its weights are finite
and not negative; otherwise the ranking is refused, and retrieval keeps the first chunks. -/
theorem ranking_of_check (h : s.check = .ok ()) :
    (0.0 ≤ s.generation.temperature ∧ s.generation.temperature ≤ 2.0 ↔
      s.generation.temperature.isNaN = false) ∧
    ∀ task chunks,
      ((s.scoring.weights task).Sound → ∃ ranked, s.scoring.rank task chunks = .ok ranked) ∧
      (¬ (s.scoring.weights task).Sound →
        s.scoring.rank task chunks =
          .error (.invalidWeights task.weightsName (s.scoring.weights task)) ∧
        ∀ limit, s.scoring.retrieve task limit chunks = chunks.take limit) := by
  refine ⟨temperature_of_check h, fun task chunks => ⟨fun hsound => ?_, fun hsound => ?_⟩⟩
  · exact ⟨_, Scoring.rank_eq_ok_iff.mpr ⟨(valid_weights_of_check h task).mpr hsound, rfl⟩⟩
  · rw [← valid_weights_of_check h] at hsound
    refine ⟨?_, fun limit => Scoring.retrieve_of_not_valid (Bool.eq_false_of_not_eq_true hsound)⟩
    rw [Scoring.rank, if_neg hsound]

/-- The standard settings are accepted, their temperature is between the bounds, and they rank
chunks for questions. -/
theorem ranking_of_check_standard :
    ({} : Settings).check = .ok () ∧
      0.0 ≤ ({} : Settings).generation.temperature ∧
      ({} : Settings).generation.temperature ≤ 2.0 ∧
      ∀ chunks, ∃ ranked, ({} : Settings).scoring.rank .quiz chunks = .ok ranked := by
  have haccepted : ({} : Settings).check = .ok () := check_eq_ok_iff.mpr (by decide +kernel)
  obtain ⟨htemperature, hranking⟩ := ranking_of_check haccepted
  have hsound : (({} : Settings).scoring.weights .quiz).Sound := by
    constructor <;> decide +kernel
  obtain ⟨hlow, hhigh⟩ := htemperature.mpr (by decide +kernel)
  exact ⟨haccepted, hlow, hhigh, fun chunks => (hranking .quiz chunks).1 hsound⟩

/-- **Settings are accepted whose temperature is not a number**, and settings by whose weights no
chunks are ranked: one weight is not a number, or one is negative beside a greater one. -/
theorem not_ranking_of_check :
    let uncertain : Settings := { generation := { temperature := 0.0 / 0.0 } }
    let unknown : Settings := { scoring := { keywordWeight := 0.0 / 0.0 } }
    let negative : Settings := { scoring := { keywordWeight := -1, lengthWeight := 2 } }
    (uncertain.check = .ok () ∧ ¬ (0.0 : Float32) ≤ uncertain.generation.temperature) ∧
    (unknown.check = .ok () ∧
      unknown.scoring.rank .quiz [] = .error (.invalidWeights "keyword" ⟨0.0 / 0.0, 0.3⟩)) ∧
    (negative.check = .ok () ∧
      negative.scoring.rank .quiz [] = .error (.invalidWeights "keyword" ⟨-1, 2⟩)) := by
  intro uncertain unknown negative
  have huncertain : uncertain.check = .ok () := check_eq_ok_iff.mpr (by decide +kernel)
  have hunknown : unknown.check = .ok () := check_eq_ok_iff.mpr (by decide +kernel)
  have hnegative : negative.check = .ok () := check_eq_ok_iff.mpr (by decide +kernel)
  have hinvalid : ¬ (unknown.scoring.weights .quiz).valid = true := by decide +kernel
  have hinvalid' : ¬ (negative.scoring.weights .quiz).valid = true := by decide +kernel
  refine ⟨⟨huncertain, by decide +kernel⟩, ⟨hunknown, ?_⟩, ⟨hnegative, ?_⟩⟩
  · rw [Scoring.rank, if_neg hinvalid]
    rfl
  · rw [Scoring.rank, if_neg hinvalid']
    rfl

end Settings

end Courseware
