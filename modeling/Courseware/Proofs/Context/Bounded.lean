import Courseware.Context.Bounded
import Courseware.Proofs.Chunk.Split
import Courseware.Proofs.Context.Truncation
import Courseware.Proofs.Relevance.Retrieval
import Courseware.Proofs.Settings.Check

/-! # Contexts of accepted settings

With limits that leave room, retrieval always makes a context of a text that is not blank
(`tryBound_eq_ok`), so no context is made in another way and none exceeds the ceiling
(`bound_intended`). The context may still be empty. That takes a text that begins with blanks
and is too long for the ceiling although a chunk holds it (`blank_bound_eq_false_iff`). -/

namespace Courseware.Bounding

open Text

variable {bounding : Bounding} {task : Task} {text : String}

/-! ## Retrieval -/

/-- **The chunks of a text that make up its context.** -/
def selection (bounding : Bounding) (task : Task) (text : String) : List Chunk :=
  bounding.scoring.retrieve task task.maxChunks (Chunk.split bounding.limits.budget text)

/-- **The context before it is cut to the ceiling**: the selected chunks in a row. -/
def combined (bounding : Bounding) (task : Task) (text : String) : List Char :=
  (Chunk.combine (bounding.selection task text)).toList

/-- Some chunk of a text that is not blank is selected. -/
theorem selection_ne_nil (bounding : Bounding) (task : Task) (h : blank text = false) :
    bounding.selection task text ≠ [] :=
  Scoring.retrieve_ne_nil task.maxChunks_pos (Chunk.split_ne_nil _ h)

/-- The selected chunks of a text that is not blank are not blank. -/
theorem isBlankText_combined (bounding : Bounding) (task : Task) (h : blank text = false) :
    isBlankText (bounding.combined task text) = false := by
  obtain ⟨first, rest, hselection⟩ := List.exists_cons_of_ne_nil (bounding.selection_ne_nil task h)
  have hmem : first ∈ bounding.selection task text := by
    rw [hselection]
    exact List.mem_cons_self
  have hfirst := Chunk.blank_of_mem_split _ h (Scoring.mem_of_mem_retrieve hmem)
  rw [combined, hselection]
  by_contra hblank
  rw [Bool.not_eq_false] at hblank
  rw [blank, isBlankText_of_isPrefix (Chunk.prefix_combine_cons first rest) hblank] at hfirst
  cases hfirst

/-- **Retrieval makes a context** of a text that is not blank whenever the ceiling leaves room: none
of its errors can occur. -/
theorem tryBound_eq_ok (task : Task) (hceiling : 0 < bounding.limits.ceiling)
    (h : blank text = false) :
    bounding.tryBound task text = .ok {
      text := String.ofList
        (Truncation.truncate bounding.limits.ceiling (bounding.combined task text))
      task := task
      strategy := .retrieved
      inputTokens := Token.estimate text.toList
      outputTokens := Token.estimate
        (Truncation.truncate bounding.limits.ceiling (bounding.combined task text))
      chunksTotal := (Chunk.split bounding.limits.budget text).length
      chunksSelected := (bounding.selection task text).length
      maxChunks := some task.maxChunks } := by
  have hchunks : (Chunk.split bounding.limits.budget text).isEmpty = false :=
    List.isEmpty_eq_false_iff.mpr (Chunk.split_ne_nil _ h)
  have hselected : (bounding.selection task text).isEmpty = false :=
    List.isEmpty_eq_false_iff.mpr (bounding.selection_ne_nil task h)
  have hcombined := bounding.isBlankText_combined task h
  simp only [combined, selection] at hselected hcombined ⊢
  simp only [tryBound, if_neg hceiling.ne', hchunks, hselected, hcombined, Bool.false_eq_true,
    if_false]

/-- The context of a text that is not blank is the text itself, when it is small, or what retrieval
makes. -/
theorem bound_cases (bounding : Bounding) (task : Task) (hceiling : 0 < bounding.limits.ceiling)
    (h : blank text = false) :
    (Token.estimate text.toList ≤ bounding.limits.threshold ∧
        bounding.bound task text =
          withoutChunks task .passthrough (Token.estimate text.toList) text) ∨
      (bounding.limits.threshold < Token.estimate text.toList ∧
        bounding.tryBound task text = .ok (bounding.bound task text)) := by
  rw [bound]
  by_cases hsmall : Token.estimate text.toList ≤ bounding.limits.threshold
  · refine Or.inl ⟨hsmall, if_neg ?_⟩
    simpa [needed] using hsmall
  · refine Or.inr ⟨Nat.lt_of_not_le hsmall, ?_⟩
    rw [if_pos (by simpa [needed] using hsmall), tryBound_eq_ok task hceiling h]

/-! ## The ceiling -/

/-- **A context made in one of the intended ways** within the ceiling of the limits. -/
structure Intended (limits : Limits) (task : Task) (bounded : BoundedContext) : Prop where
  /-- The context is the text itself, or it is made by retrieval. -/
  strategy : bounded.strategy = .passthrough ∨ bounded.strategy = .retrieved
  /-- The context is within the ceiling. -/
  ceiling : Token.estimate bounded.text.toList ≤ limits.ceiling
  /-- The tokens that are reported are those of the context. -/
  outputTokens : bounded.outputTokens = Token.estimate bounded.text.toList
  /-- Retrieval selects as many of the chunks as the task takes, and there are some. -/
  retrieved : bounded.strategy = .retrieved →
    1 ≤ bounded.chunksTotal ∧ bounded.maxChunks = some task.maxChunks ∧
      bounded.chunksSelected = min task.maxChunks bounded.chunksTotal

/-- A context made by retrieval is an intended one. -/
theorem intended_of_tryBound {bounded : BoundedContext} (hceiling : 0 < bounding.limits.ceiling)
    (hblank : blank text = false) (h : bounding.tryBound task text = .ok bounded) :
    Intended bounding.limits task bounded := by
  rw [tryBound_eq_ok task hceiling hblank, Except.ok.injEq] at h
  subst h
  refine ⟨Or.inr rfl, ?_, ?_, fun _ => ⟨?_, rfl, ?_⟩⟩
  · rw [String.toList_ofList]
    exact Truncation.estimate_truncate_le _ _
  · rw [String.toList_ofList]
  · exact List.length_pos_iff.mpr (Chunk.split_ne_nil _ hblank)
  · exact Scoring.length_retrieve _ _ _ _

/-- **Accepted settings make no context in an emergency**: every text that is not blank has a
context within the ceiling that is the text itself or made by retrieval. -/
theorem bound_intended (settings : Settings) (hcheck : settings.check = .ok ()) (task : Task)
    (h : blank text = false) :
    Intended settings.limits task
      ((⟨settings.limits, settings.scoring⟩ : Bounding).bound task text) := by
  have hsound := Settings.limits_sound hcheck
  set bounding : Bounding := ⟨settings.limits, settings.scoring⟩
  rcases bound_cases bounding task hsound.ceiling_pos h with ⟨hsmall, hbound⟩ | ⟨-, htry⟩
  · rw [hbound]
    refine ⟨Or.inl rfl, ?_, rfl, fun hretrieved => ?_⟩
    · exact hsmall.trans hsound.threshold_le
    · cases hretrieved
  · exact intended_of_tryBound hsound.ceiling_pos h htry

/-- Three sentences, divided and cut to a ceiling of six tokens. -/
theorem bound_sentences_intended :
    ({ limits := ⟨3, 6, 4, 1, 50⟩ } : Settings).check = .ok () ∧
      blank "Cells divide. Plants grow. Rivers flow." = false ∧
      Intended ⟨3, 6, 4, 1, 50⟩ .flashcard ((⟨⟨3, 6, 4, 1, 50⟩, {}⟩ : Bounding).bound .flashcard
        "Cells divide. Plants grow. Rivers flow.") :=
  ⟨by decide +kernel, by decide,
    bound_intended { limits := ⟨3, 6, 4, 1, 50⟩ } (by decide +kernel) _ (by decide)⟩

/-! ## Contexts with nothing in them -/

/-- The context that retrieval makes of a text that is not blank is blank when the one chunk is the
whole text and the ceiling trims it away. -/
theorem truncate_combined_eq_nil_iff (bounding : Bounding) (task : Task)
    (hsound : bounding.limits.Sound) (h : blank text = false) :
    Truncation.truncate bounding.limits.ceiling (bounding.combined task text) = [] ↔
      bounding.limits.ceiling < Token.estimate text.toList ∧
        Token.estimate text.toList ≤ bounding.limits.chunkSize ∧
        Truncation.TrimmedAway (Token.toBytes bounding.limits.ceiling) text.toList := by
  rcases Chunk.split_cases bounding.limits.budget h with
    ⟨hwhole, hshort⟩ | ⟨hlong, spans, -, hsplit⟩
  · -- The whole text is the one chunk, and it is not trimmed.
    have hcombined : bounding.combined task text = text.toList := by
      rw [combined, selection, hwhole, Scoring.retrieve_singleton task.maxChunks_pos,
        Chunk.combine_singleton]
    have hne : text.toList ≠ [] := fun hnil => by
      rw [blank, hnil, isBlankText_nil] at h
      cases h
    have hfits := hshort.resolve_right hsound.chunkSize_pos.ne'
    rw [hcombined, Truncation.truncate_eq_nil_iff hsound.ceiling_pos hne]
    exact and_congr_right fun _ => (and_iff_right hfits).symm
  · -- The chunks are trimmed, so the row of the selected ones begins with something to keep.
    obtain ⟨first, rest, hselection⟩ :=
      List.exists_cons_of_ne_nil (bounding.selection_ne_nil task h)
    have hmem : first ∈ Chunk.ofPieces (spans.map (Span.text text.toList)) := by
      rw [← hsplit]
      apply Scoring.mem_of_mem_retrieve
      rw [← selection, hselection]
      exact List.mem_cons_self
    obtain ⟨c, cs, hfirst, hc⟩ := Chunk.exists_cons_of_mem_ofPieces hmem
    obtain ⟨tail, htail⟩ := Chunk.prefix_combine_cons first rest
    rw [combined, hselection, ← htail, hfirst, List.cons_append]
    constructor
    · intro hnil
      exact absurd hnil (Truncation.truncate_cons_ne_nil _ hsound.ceiling_pos hc)
    · rintro ⟨-, hfits, -⟩
      exact absurd hfits (Nat.not_le_of_lt hlong)

/-- **When a context has content**: always, except for a text that is too long for the ceiling but
not for a chunk, and of which the first cut to the ceiling leaves nothing. -/
theorem blank_bound_eq_false_iff (settings : Settings) (hcheck : settings.check = .ok ())
    (task : Task) (h : blank text = false) :
    blank ((⟨settings.limits, settings.scoring⟩ : Bounding).bound task text).text = false ↔
      ¬ (settings.limits.ceiling < Token.estimate text.toList ∧
        Token.estimate text.toList ≤ settings.limits.chunkSize ∧
        Truncation.TrimmedAway (Token.toBytes settings.limits.ceiling) text.toList) := by
  have hsound := Settings.limits_sound hcheck
  set bounding : Bounding := ⟨settings.limits, settings.scoring⟩
  rcases bound_cases bounding task hsound.ceiling_pos h with ⟨hsmall, hbound⟩ | ⟨-, htry⟩
  · have hwithin := hsmall.trans hsound.threshold_le
    rw [hbound]
    exact iff_of_true h fun ⟨hover, _⟩ => absurd hwithin (Nat.not_le_of_lt hover)
  · rw [tryBound_eq_ok task hsound.ceiling_pos h, Except.ok.injEq] at htry
    have hcombined := bounding.isBlankText_combined task h
    have hempty := truncate_combined_eq_nil_iff bounding task hsound h
    rw [← htry, blank, String.toList_ofList, ← Bool.not_eq_true]
    exact not_congr ((Truncation.isBlankText_truncate_iff hcombined).trans hempty)

/-- One blank before two words leaves a word under a ceiling of one token. -/
theorem blank_bound_two_words :
    ({ limits := ⟨1, 1, 10, 0, 50⟩ } : Settings).check = .ok () ∧ blank " a b" = false ∧
      blank ((⟨⟨1, 1, 10, 0, 50⟩, {}⟩ : Bounding).bound .report " a b").text = false :=
  ⟨by decide +kernel, by decide,
    (blank_bound_eq_false_iff { limits := ⟨1, 1, 10, 0, 50⟩ } (by decide +kernel) _
      (by decide)).mpr (by decide +kernel)⟩

/-- Five blanks before two words leave nothing: four bytes fit the ceiling, and they are blank. -/
theorem not_blank_bound_after_blanks :
    ¬ ∀ (settings : Settings) (task : Task) (text : String), settings.check = .ok () →
      blank text = false →
        blank ((⟨settings.limits, settings.scoring⟩ : Bounding).bound task text).text = false := by
  intro h
  have hword := h { limits := ⟨1, 1, 10, 0, 50⟩ } .report "     a b" (by decide +kernel) (by decide)
  have hnone : ((⟨⟨1, 1, 10, 0, 50⟩, {}⟩ : Bounding).bound .report "     a b").text = "" := by
    decide +kernel
  rw [hnone] at hword
  cases hword

end Courseware.Bounding
