import Mathlib.Data.List.Forall2
import Courseware.Proofs.Context.Bounded
import Courseware.Proofs.Relevance.Selection

/-! # The narrative of a context

Chunks **narrate** a text (`Chunk.Narrates`) when they are slices of it, or trimmed ones, from
offsets that increase. The chunks of a text narrate it, and so does every part of them. Since
retrieval selects a part of the chunks in their order, a context made by retrieval is a row of
chunks that narrate the text, or a trimmed start of that row (`tryBound_narrative`), whatever the
limits and the scores are: nothing in it is invented or moved. -/

namespace Courseware

open Text

/-- Under a relation of two lists element by element, a part of one list belongs to a part of the
other. -/
theorem exists_sublist_forall₂ {α β : Type} {R : α → β → Prop} {part whole : List α}
    {others : List β} (hsub : part.Sublist whole) (h : List.Forall₂ R whole others) :
    ∃ kept, List.Forall₂ R part kept ∧ kept.Sublist others := by
  induction hsub generalizing others with
  | slnil => exact ⟨[], List.Forall₂.nil, List.nil_sublist others⟩
  | cons a _ ih =>
      cases h with
      | cons _ hrest =>
          obtain ⟨kept, hkept, hsub⟩ := ih hrest
          exact ⟨kept, hkept, hsub.cons _⟩
  | cons_cons a _ ih =>
      cases h with
      | cons hfirst hrest =>
          obtain ⟨kept, hkept, hsub⟩ := ih hrest
          exact ⟨_, List.Forall₂.cons hfirst hkept, hsub.cons_cons _⟩

/-- Spans that cover a text begin one behind the other. -/
theorem Covers.pairwise_start {overlap start : Nat} {cs : List Char} {spans : List Span}
    (h : Covers overlap cs start spans) : spans.Pairwise fun a b => a.start < b.start := by
  have hchain : spans.IsChain fun a b => a.start < b.start :=
    h.chain.imp fun a b hfollows => hfollows.start_lt
  exact hchain.pairwise

namespace Chunk

/-! ## Chunks that narrate a text -/

/-- **A chunk that holds a span of a text**, as it stands there or trimmed. -/
def Holds (text : String) (chunk : Chunk) (span : Span) : Prop :=
  chunk.text.toList = span.text text.toList ∨ chunk.text.toList = trim (span.text text.toList)

/-- **Chunks that narrate a text** along spans of it. -/
structure Narrates (text : String) (chunks : List Chunk) (spans : List Span) : Prop where
  /-- Each chunk holds its span. -/
  holds : List.Forall₂ (Holds text) chunks spans
  /-- Each span splits no character and is not empty. -/
  proper : ∀ span ∈ spans, span.Proper text.toList
  /-- The spans begin one behind the other. -/
  increasing : spans.Pairwise fun a b => a.start < b.start

/-- A part of chunks that narrate a text narrates it. -/
theorem Narrates.sublist {text : String} {chosen chunks : List Chunk} {spans : List Span}
    (h : Narrates text chunks spans) (hsub : chosen.Sublist chunks) :
    ∃ kept, Narrates text chosen kept := by
  obtain ⟨kept, hholds, hkept⟩ := exists_sublist_forall₂ hsub h.holds
  refine ⟨kept, hholds, ?_, h.increasing.sublist hkept⟩
  intro span hspan
  exact h.proper span (hkept.subset hspan)

/-- The chunks of slices that cover a text narrate it, along the slices that are not blank. -/
theorem narrates_ofPieces {overlap : Nat} {text : String} {spans : List Span}
    (h : Covers overlap text.toList 0 spans) :
    Narrates text (ofPieces (spans.map (Span.text text.toList)))
      (spans.filter fun span => !isBlankText (span.text text.toList)) where
  holds := by
    have htexts := map_text_ofPieces (spans.map (Span.text text.toList))
    rw [List.filter_map, List.map_map, ← List.forall₂_eq_eq_eq, List.forall₂_map_left_iff,
      List.forall₂_map_right_iff] at htexts
    exact htexts.imp fun _ _ htrim => Or.inr htrim
  proper := by
    intro span hspan
    exact h.proper span (List.mem_of_mem_filter hspan)
  increasing := h.pairwise_start.filter _

/-- The whole text narrates itself. -/
theorem narrates_whole {text : String} (h : blank text = false) :
    Narrates text [⟨text, 0⟩] [⟨0, byteLength text.toList⟩] := by
  have hne : text.toList ≠ [] := by
    intro hnil
    rw [blank, hnil, isBlankText_nil] at h
    cases h
  have htext := Span.text_append [] text.toList []
  have hproper := Span.proper_append [] [] hne
  simp only [List.nil_append, List.append_nil, byteLength_nil, Nat.zero_add] at htext hproper
  refine ⟨List.Forall₂.cons (Or.inl htext.symm) List.Forall₂.nil, ?_, List.pairwise_singleton _ _⟩
  intro span hspan
  rw [List.mem_singleton.mp hspan]
  exact hproper

/-- **The chunks of a text narrate it.** -/
theorem narrates_split (budget : ChunkBudget) {text : String} (h : blank text = false) :
    ∃ spans, Narrates text (split budget text) spans := by
  rcases split_cases budget h with ⟨hwhole, -⟩ | ⟨-, spans, hcovers, hsplit⟩
  · rw [hwhole]
    exact ⟨_, narrates_whole h⟩
  · rw [hsplit]
    exact ⟨_, narrates_ofPieces hcovers⟩

/-- The chunks of a text stand in its order. -/
theorem ordered_split (budget : ChunkBudget) {text : String} (h : blank text = false) :
    Ordered (split budget text) := by
  rcases split_cases budget h with ⟨hwhole, -⟩ | ⟨-, spans, -, hsplit⟩
  · rw [hwhole]
    exact List.pairwise_singleton _ _
  · have hordinals := map_ordinal_ofPieces (spans.map (Span.text text.toList))
    rw [← hsplit] at hordinals
    have hlt := List.pairwise_lt_range (n := (split budget text).length)
    rw [← hordinals, List.pairwise_map] at hlt
    exact hlt

end Chunk

namespace Bounding

/-! ## Contexts made by retrieval -/

/-- **A context that keeps the narrative** of a text, made of `chosen` chunks along spans of the
text. -/
structure Narrative (bounding : Bounding) (task : Task) (text : String)
    (bounded : BoundedContext) (chosen : List Chunk) (spans : List Span) : Prop where
  /-- The chosen chunks are a part of the chunks of the text, in their order. -/
  sublist : chosen.Sublist (Chunk.split bounding.limits.budget text)
  /-- They narrate the text. -/
  narrates : Chunk.Narrates text chosen spans
  /-- The context is the row of them, or a trimmed start of it. -/
  content : bounded.text = Chunk.combine chosen ∨
    ∃ part, part <+: (Chunk.combine chosen).toList ∧ bounded.text = String.ofList (trim part)
  /-- All chunks of the text are counted. -/
  chunksTotal : bounded.chunksTotal = (Chunk.split bounding.limits.budget text).length
  /-- The chosen chunks are counted. -/
  chunksSelected : bounded.chunksSelected = chosen.length
  /-- They are as many as the task takes. -/
  selected_eq : bounded.chunksSelected = min task.maxChunks bounded.chunksTotal
  /-- The tokens of the text are estimated. -/
  inputTokens : bounded.inputTokens = Token.estimate text.toList
  /-- The tokens of the context are estimated. -/
  outputTokens : bounded.outputTokens = Token.estimate bounded.text.toList

/-- Retrieval makes no context of a blank text, and none without a ceiling. -/
theorem of_tryBound_eq_ok {bounding : Bounding} {task : Task} {text : String}
    {bounded : BoundedContext} (h : bounding.tryBound task text = .ok bounded) :
    0 < bounding.limits.ceiling ∧ blank text = false := by
  constructor
  · by_contra hzero
    rw [Nat.not_lt, Nat.le_zero] at hzero
    rw [tryBound, if_pos hzero] at h
    cases h
  · by_contra hblank
    rw [Bool.not_eq_false] at hblank
    have hnone : Chunk.split bounding.limits.budget text = [] := by
      rw [Chunk.split, if_pos hblank]
    unfold tryBound at h
    simp only [hnone, List.isEmpty_nil, if_true] at h
    split at h <;> cases h

/-- **A context made by retrieval keeps the narrative**, whatever the limits and the scores are. -/
theorem tryBound_narrative (bounding : Bounding) (task : Task) (text : String)
    (bounded : BoundedContext) (h : bounding.tryBound task text = .ok bounded) :
    ∃ chosen spans, Narrative bounding task text bounded chosen spans := by
  obtain ⟨hceiling, hblank⟩ := of_tryBound_eq_ok h
  have hsub := Scoring.sublist_retrieve bounding.scoring task task.maxChunks
    (Chunk.ordered_split bounding.limits.budget hblank)
  obtain ⟨all, hall⟩ := Chunk.narrates_split bounding.limits.budget hblank
  obtain ⟨spans, hspans⟩ := hall.sublist hsub
  rw [tryBound_eq_ok task hceiling hblank, Except.ok.injEq] at h
  subst h
  -- The rest is read off what retrieval makes of the selection.
  refine ⟨bounding.selection task text, spans, hsub, hspans, ?_, rfl, rfl, ?_, rfl, ?_⟩
  · rcases Truncation.truncate_cases bounding.limits.ceiling (bounding.combined task text) with
      hwhole | ⟨part, hpart, htrim⟩
    · left
      rw [hwhole, combined, String.ofList_toList]
    · right
      exact ⟨part, hpart, congrArg String.ofList htrim⟩
  · exact Scoring.length_retrieve _ _ _ _
  · rw [String.toList_ofList]

/-- Three sentences in chunks, of which a ceiling of six tokens keeps the start. -/
theorem tryBound_narrative_of_sentences :
    let bounding : Bounding := ⟨⟨3, 6, 4, 1, 50⟩, {}⟩
    let text := "Cells divide. Plants grow. Rivers flow."
    let bounded : BoundedContext :=
      ⟨"Cells divide.\n\nde. Plant", .flashcard, .retrieved, 7, 5, 3, 3, some 5⟩
    bounding.tryBound .flashcard text = .ok bounded ∧
      ∃ chosen spans, Narrative bounding .flashcard text bounded chosen spans := by
  intro bounding text bounded
  have h : bounding.tryBound .flashcard text = .ok bounded := by decide +kernel
  exact ⟨h, tryBound_narrative bounding .flashcard text bounded h⟩

end Bounding

end Courseware
