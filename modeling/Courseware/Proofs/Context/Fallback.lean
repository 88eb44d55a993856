import Courseware.Context.Bounded
import Courseware.Proofs.Context.Truncation

/-! # Truncations behind a note

A text that is over the ceiling is cut to what the note before it leaves of the ceiling. The note
**reserves** its own tokens and one more (`reserve`): a text of two parts may have one token more
than its parts, and then the spare one makes up for it (`estimate_note_append_remainder_le`).

* **A truncation behind a note** is within the ceiling, and there is one unless the note needs the
  whole ceiling or nothing is left of the text (`fallbackTruncate_withinCeiling`).
-/

namespace Courseware.Bounding

open Text

variable {bounding : Bounding} {text : String}

/-- **What the note takes of the ceiling**: its own tokens, and one that is kept back. -/
def reserve : Nat := Token.estimate truncationNote.toList + 1

/-- **What is left of a text behind the note**: the text, cut to the rest of the ceiling. -/
def remainder (bounding : Bounding) (text : String) : List Char :=
  Truncation.truncate (bounding.limits.ceiling - reserve) text.toList

/-- **The ways of truncating a text**: it stays whole, the note leaves no room, nothing is left of
the text, or its remainder stands behind the note. -/
theorem fallbackTruncate_cases (bounding : Bounding) (text : String) :
    (Token.estimate text.toList ≤ bounding.limits.ceiling ∧
        bounding.fallbackTruncate text = .ok text) ∨
      bounding.limits.ceiling < Token.estimate text.toList ∧
        ((bounding.limits.ceiling ≤ reserve ∧
            bounding.fallbackTruncate text = .error (.ceilingTooSmall bounding.limits.ceiling)) ∨
          (reserve < bounding.limits.ceiling ∧ bounding.remainder text = [] ∧
            bounding.fallbackTruncate text = .error .emptyContext) ∨
          (reserve < bounding.limits.ceiling ∧ bounding.remainder text ≠ [] ∧
            bounding.fallbackTruncate text =
              .ok (truncationNote ++ String.ofList (bounding.remainder text)))) := by
  simp only [fallbackTruncate, ← reserve.eq_1, ← remainder.eq_1]
  by_cases hshort : Token.estimate text.toList ≤ bounding.limits.ceiling
  · exact Or.inl ⟨hshort, if_pos hshort⟩
  · refine Or.inr ⟨Nat.lt_of_not_le hshort, ?_⟩
    rw [if_neg hshort]
    by_cases hroom : bounding.limits.ceiling ≤ reserve
    · exact Or.inl ⟨hroom, if_pos hroom⟩
    · rw [if_neg hroom]
      cases hrest : bounding.remainder text with
      | nil => exact Or.inr (Or.inl ⟨Nat.lt_of_not_le hroom, rfl, rfl⟩)
      | cons c rest => exact Or.inr (Or.inr ⟨Nat.lt_of_not_le hroom, List.cons_ne_nil c rest, rfl⟩)

/-- The remainder of a text that is over the ceiling is a trimmed start of it. -/
theorem exists_remainder_eq_trim (hlong : bounding.limits.ceiling < Token.estimate text.toList) :
    ∃ part, part <+: text.toList ∧ bounding.remainder text = trim part := by
  have hfits := Truncation.estimate_truncate_le (bounding.limits.ceiling - reserve) text.toList
  rcases Truncation.truncate_cases (bounding.limits.ceiling - reserve) text.toList with
    hwhole | hpart
  · -- The whole text has more tokens than a truncation.
    rw [hwhole] at hfits
    omega
  · exact hpart

/-- **The note and the remainder** are within the ceiling. -/
theorem estimate_note_append_remainder_le (text : String)
    (hroom : reserve < bounding.limits.ceiling) :
    Token.estimate (truncationNote ++ String.ofList (bounding.remainder text)).toList ≤
      bounding.limits.ceiling := by
  have hbody : Token.estimate (bounding.remainder text) ≤ bounding.limits.ceiling - reserve :=
    Truncation.estimate_truncate_le _ _
  have hsum := Token.estimate_append_le truncationNote.toList (bounding.remainder text)
  have hreserve : reserve = Token.estimate truncationNote.toList + 1 := reserve.eq_1
  rw [String.toList_append, String.toList_ofList]
  omega

/-- **A context within the ceiling** that is the text itself when that is within the ceiling, and
otherwise a trimmed start of it behind the note. -/
structure WithinCeiling (ceiling : Nat) (text context : String) : Prop where
  /-- It has no more tokens than the ceiling. -/
  estimate_le : Token.estimate context.toList ≤ ceiling
  /-- It is the text exactly when the text is within the ceiling. -/
  eq_text_iff : context = text ↔ Token.estimate text.toList ≤ ceiling
  /-- It is the text, or it has something of the start of the text. -/
  eq_text_or_note : context = text ∨ ∃ part, part <+: text.toList ∧ trim part ≠ [] ∧
    context = truncationNote ++ String.ofList (trim part)

/-- The note and a remainder that is not empty are such a context. -/
theorem withinCeiling_note_append_remainder
    (hlong : bounding.limits.ceiling < Token.estimate text.toList)
    (hroom : reserve < bounding.limits.ceiling) (hsome : bounding.remainder text ≠ []) :
    WithinCeiling bounding.limits.ceiling text
      (truncationNote ++ String.ofList (bounding.remainder text)) := by
  have hwithin := estimate_note_append_remainder_le text hroom
  obtain ⟨part, hpart, htrim⟩ := exists_remainder_eq_trim hlong
  refine ⟨hwithin, iff_of_false ?_ (Nat.not_le_of_lt hlong), Or.inr ⟨part, hpart, ?_, ?_⟩⟩
  · -- The text has more tokens than what stands here.
    intro hsame
    rw [hsame] at hwithin
    omega
  · rwa [← htrim]
  · rw [htrim]

/-- **When a text cannot be truncated**: it is over the ceiling, and the note leaves no room or
nothing is left of the text. -/
theorem fallbackTruncate_eq_error_iff {e : BoundingError} :
    bounding.fallbackTruncate text = .error e ↔
      bounding.limits.ceiling < Token.estimate text.toList ∧
        (bounding.limits.ceiling ≤ reserve ∧ e = .ceilingTooSmall bounding.limits.ceiling ∨
          reserve < bounding.limits.ceiling ∧ bounding.remainder text = [] ∧
            e = .emptyContext) := by
  rcases fallbackTruncate_cases bounding text with
    ⟨hshort, h⟩ | ⟨hlong, ⟨hfull, h⟩ | ⟨hroom, hnone, h⟩ | ⟨hroom, hsome, h⟩⟩
  · rw [h]
    exact iff_of_false nofun fun ⟨hover, _⟩ => absurd hshort (Nat.not_le_of_lt hover)
  · rw [h, Except.error.injEq, eq_comm]
    simp [hlong, hfull, Nat.not_lt_of_le hfull]
  · rw [h, Except.error.injEq, eq_comm]
    simp [hlong, hroom, hnone, Nat.not_le_of_lt hroom]
  · rw [h]
    simp [hsome, Nat.not_le_of_lt hroom]

/-- **A truncation is within the ceiling**, and there is one unless the text is over the ceiling and
the note takes all of that, or the cut to the rest leaves nothing of the text. -/
theorem fallbackTruncate_withinCeiling (bounding : Bounding) (text : String) :
    (∀ context, bounding.fallbackTruncate text = .ok context →
        WithinCeiling bounding.limits.ceiling text context) ∧
      ∀ e, bounding.fallbackTruncate text = .error e ↔
        bounding.limits.ceiling < Token.estimate text.toList ∧
          (bounding.limits.ceiling ≤ Token.estimate truncationNote.toList + 1 ∧
              e = .ceilingTooSmall bounding.limits.ceiling ∨
            Token.estimate truncationNote.toList + 1 < bounding.limits.ceiling ∧
              bounding.remainder text = [] ∧ e = .emptyContext) := by
  rw [← reserve.eq_1]
  refine ⟨fun context h => ?_, fun e => fallbackTruncate_eq_error_iff⟩
  rcases fallbackTruncate_cases bounding text with
    ⟨hshort, hok⟩ | ⟨hlong, ⟨-, herror⟩ | ⟨-, -, herror⟩ | ⟨hroom, hsome, hok⟩⟩
  · rw [hok, Except.ok.injEq] at h
    subst h
    exact ⟨hshort, iff_of_true rfl hshort, Or.inl rfl⟩
  · rw [herror] at h
    cases h
  · rw [herror] at h
    cases h
  · rw [hok, Except.ok.injEq] at h
    subst h
    exact withinCeiling_note_append_remainder hlong hroom hsome

end Courseware.Bounding
