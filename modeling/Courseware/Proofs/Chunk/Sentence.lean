import Mathlib.Data.List.Induction
import Mathlib.Data.List.Perm.Subperm
import Courseware.Proofs.Chunk.Boundary
import Courseware.Proofs.Text.Trim

/-! # Which sentences divide a text

The scan for sentences finds exactly the places behind a mark and the blanks that directly follow it
(`mem_sentenceEnds_iff`). They divide a text when its coarser places are few. A paragraph break is
also the start of a line, and counts as two places when lines join in.

* **The sentences divide a text** exactly when its coarser places, so counted, are fewer than
  twenty, or when they end at such places anyway (`sentenceEnd_mem_find_iff`).
-/

namespace Courseware.Boundary

open Text

variable {text : List Char} {n : Nat}

/-! ## The ends of sentences -/

/-- **The end of a sentence**: the place behind a sentence mark and all the blanks that directly
follow it. There is at least one. -/
def SentenceEnd (text : List Char) (n : Nat) : Prop :=
  ∃ lead mark gap rest, text = lead ++ mark :: gap ++ rest ∧ isSentenceMark mark = true ∧
    gap ≠ [] ∧ isBlankText gap = true ∧ (∀ c ∈ rest.head?, isBlank c = false) ∧
    n = byteLength (lead ++ mark :: gap)

namespace SentenceScan

/-- Where the scan stands behind a text. -/
def after (cs : List Char) : SentenceScan := cs.foldl SentenceScan.next .inside

@[simp] theorem after_nil : after [] = .inside := rfl

@[simp] theorem after_concat (cs : List Char) (c : Char) :
    after (cs ++ [c]) = (after cs).next c := by
  simp [after]

/-- The scan stands behind a mark when it has just read one. -/
theorem next_eq_marked_iff {scan : SentenceScan} {c : Char} :
    scan.next c = .marked ↔ isSentenceMark c = true := by
  by_cases hmark : isSentenceMark c = true
  · simp [next, hmark, isBlank_eq_false_of_isSentenceMark hmark]
  · cases scan <;> simp [next, hmark] <;> split <;> simp

/-- The scan stands in a gap when it has just read a blank behind a mark or in a gap. -/
theorem next_eq_gap_iff {scan : SentenceScan} {c : Char} :
    scan.next c = .gap ↔ isBlank c = true ∧ scan ≠ .inside := by
  by_cases hblank : isBlank c = true
  · cases scan <;> simp [next, hblank]
  · exact iff_of_false (fun h => hblank (isBlank_of_next_eq_gap h)) fun h => hblank h.1

/-- The scan stands behind a mark exactly when the text ends with one. -/
theorem after_eq_marked_iff {cs : List Char} :
    after cs = .marked ↔ ∃ lead mark, cs = lead ++ [mark] ∧ isSentenceMark mark = true := by
  induction cs using List.reverseRecOn with
  | nil => simp
  | append_singleton front c _ =>
      rw [after_concat, next_eq_marked_iff]
      constructor
      · intro hmark
        exact ⟨front, c, rfl, hmark⟩
      · rintro ⟨lead, mark, hcs, hmark⟩
        rwa [(List.append_singleton_inj.mp hcs).2]

/-- **The scan stands in a gap** exactly when the text ends with blanks that directly follow a
mark. -/
theorem after_eq_gap_iff {cs : List Char} :
    after cs = .gap ↔ ∃ lead mark gap, cs = lead ++ mark :: gap ∧ isSentenceMark mark = true ∧
      gap ≠ [] ∧ isBlankText gap = true := by
  induction cs using List.reverseRecOn with
  | nil => simp
  | append_singleton front c ih =>
      rw [after_concat, next_eq_gap_iff]
      constructor
      · rintro ⟨hc, hfront⟩
        cases hscan : after front with
        | inside => exact absurd hscan hfront
        | marked =>
            -- The gap begins with this blank.
            obtain ⟨lead, mark, rfl, hmark⟩ := after_eq_marked_iff.mp hscan
            exact ⟨lead, mark, [c], by simp, hmark, by simp, by simp [hc]⟩
        | gap =>
            obtain ⟨lead, mark, gap, rfl, hmark, -, hgap⟩ := ih.mp hscan
            exact ⟨lead, mark, gap ++ [c], by simp, hmark, by simp, by simp [hgap, hc]⟩
      · rintro ⟨lead, mark, gap, hcs, hmark, hne, hgap⟩
        rcases List.eq_nil_or_concat gap with hnil | ⟨front', d, hconcat⟩
        · exact absurd hnil hne
        · rw [List.concat_eq_append] at hconcat
          subst hconcat
          rw [← List.cons_append, ← List.append_assoc] at hcs
          obtain ⟨rfl, rfl⟩ := List.append_singleton_inj.mp hcs
          rw [isBlankText_append, Bool.and_eq_true] at hgap
          refine ⟨by simpa using hgap.2, ?_⟩
          intro hinside
          by_cases hnil : front' = []
          · -- The text before the blank ends with the mark.
            have hscan := after_eq_marked_iff.mpr ⟨lead, mark, rfl, hmark⟩
            rw [hnil, hscan] at hinside
            cases hinside
          · have hscan := ih.mpr ⟨lead, mark, front', rfl, hmark, hnil, hgap.1⟩
            rw [hscan] at hinside
            cases hinside

end SentenceScan

/-- **A gap that ends at a place**: what has been read is `before`, and the gap ends there or in what
is left. -/
def GapEnd (before cs : List Char) (n : Nat) : Prop :=
  ∃ front rest, cs = front ++ rest ∧ SentenceScan.after (before ++ front) = .gap ∧
    (∀ c ∈ rest.head?, isBlank c = false) ∧ n = byteLength (before ++ front)

/-- At the end of a text a gap ends. -/
theorem gapEnd_nil {before : List Char} :
    GapEnd before [] n ↔ SentenceScan.after before = .gap ∧ n = byteLength before := by
  constructor
  · rintro ⟨front, rest, hcs, hscan, -, hn⟩
    obtain ⟨rfl, rfl⟩ := List.append_eq_nil_iff.mp hcs.symm
    rw [List.append_nil] at hscan hn
    exact ⟨hscan, hn⟩
  · rintro ⟨hscan, hn⟩
    exact ⟨[], [], rfl, by simpa using hscan, nofun, by simpa using hn⟩

/-- A gap ends before a character that is not blank, or behind the character. -/
theorem gapEnd_cons {before cs : List Char} {c : Char} :
    GapEnd before (c :: cs) n ↔
      (SentenceScan.after before = .gap ∧ isBlank c = false) ∧ n = byteLength before ∨
        GapEnd (before ++ [c]) cs n := by
  constructor
  · rintro ⟨front, rest, hcs, hscan, hrest, hn⟩
    cases front with
    | nil =>
        obtain rfl : c :: cs = rest := hcs
        rw [List.append_nil] at hscan hn
        exact Or.inl ⟨⟨hscan, hrest c rfl⟩, hn⟩
    | cons d front =>
        obtain ⟨rfl, rfl⟩ := List.cons.inj hcs
        exact Or.inr ⟨front, rest, rfl, by simpa using hscan, hrest, by simpa using hn⟩
  · rintro (⟨⟨hscan, hc⟩, hn⟩ | ⟨front, rest, rfl, hscan, hrest, hn⟩)
    · exact ⟨[], c :: cs, rfl, by simpa using hscan, by simpa using hc, by simpa using hn⟩
    · exact ⟨c :: front, rest, rfl, by simpa using hscan, hrest, by simpa using hn⟩

/-- A sentence ends where a gap does. -/
theorem sentenceEnd_iff_gapEnd : SentenceEnd text n ↔ GapEnd [] text n := by
  constructor
  · rintro ⟨lead, mark, gap, rest, rfl, hmark, hne, hgap, hrest, rfl⟩
    have hscan := SentenceScan.after_eq_gap_iff.mpr ⟨lead, mark, gap, rfl, hmark, hne, hgap⟩
    exact ⟨_, rest, rfl, hscan, hrest, rfl⟩
  · rintro ⟨front, rest, rfl, hscan, hrest, rfl⟩
    obtain ⟨lead, mark, gap, hfront, hmark, hne, hgap⟩ := SentenceScan.after_eq_gap_iff.mp hscan
    rw [List.nil_append] at hfront ⊢
    subst hfront
    exact ⟨lead, mark, gap, rest, rfl, hmark, hne, hgap, hrest, rfl⟩

/-- The scan from a place in a text on finds the gaps that end from there on. -/
theorem mem_sentenceEndsFrom_iff (before : List Char) {cs : List Char} :
    n ∈ sentenceEndsFrom (byteLength before) (SentenceScan.after before) cs ↔
      GapEnd before cs n := by
  induction cs generalizing before with
  | nil =>
      rw [sentenceEndsFrom, gapEnd_nil]
      by_cases hgap : SentenceScan.after before = .gap <;> simp [hgap]
  | cons c cs ih =>
      have hoffset : byteLength before + c.utf8Size = byteLength (before ++ [c]) := by simp
      simp only [sentenceEndsFrom, hoffset, ← SentenceScan.after_concat]
      rw [gapEnd_cons, ← ih]
      split
      · rename_i hend
        rw [List.mem_cons, and_iff_right hend]
      · rename_i hend
        exact ⟨Or.inr, fun h => h.resolve_left fun hhere => hend hhere.1⟩

/-- **The scan finds the ends of the sentences** of a text, and nothing else. -/
theorem mem_sentenceEnds_iff : n ∈ sentenceEnds text ↔ SentenceEnd text n := by
  rw [sentenceEnd_iff_gapEnd]
  exact mem_sentenceEndsFrom_iff []

/-! ## The coarser places -/

/-- **The coarser places** that may divide a text: its paragraph breaks, with the starts of its lines
when there are few of them. A place of both kinds is there twice. -/
def coarser (cs : List Char) : List Nat :=
  if (paragraphBreaks cs).length < fewParagraphs then paragraphBreaks cs ++ lineStarts cs
  else paragraphBreaks cs

/-- The ends of sentences join in when the coarser places are few. -/
theorem candidates_eq (cs : List Char) :
    candidates cs =
      if (coarser cs).length < fewLines then coarser cs ++ sentenceEnds cs else coarser cs := rfl

/-- A coarser place may divide the text. -/
theorem mem_candidates_of_mem_coarser (h : n ∈ coarser text) : n ∈ candidates text := by
  rw [candidates_eq]
  split
  · exact List.mem_append_left _ h
  · exact h

/-- Lines start behind the place that the scan has reached, one after the other. -/
theorem lineStartsFrom_ascends (offset : Nat) (cs : List Char) :
    (lineStartsFrom offset cs).Pairwise (· < ·) ∧ ∀ m ∈ lineStartsFrom offset cs, offset < m := by
  induction cs generalizing offset with
  | nil => exact ⟨List.Pairwise.nil, by simp [lineStartsFrom]⟩
  | cons c cs ih =>
      have hc := c.utf8Size_pos
      obtain ⟨hrest, hlater⟩ := ih (offset + c.utf8Size)
      simp only [lineStartsFrom]
      split
      · refine ⟨List.pairwise_cons.mpr ⟨hlater, hrest⟩, ?_⟩
        intro m hm
        rcases List.mem_cons.mp hm with rfl | hm
        · omega
        · have hlt := hlater m hm
          omega
      · refine ⟨hrest, ?_⟩
        intro m hm
        have hlt := hlater m hm
        omega

/-- Paragraph breaks come one after the other. One that is open ends at `last`, and the others
behind the place that the scan has reached. -/
theorem paragraphBreaksFrom_ascends {offset last : Nat} (newlines : Nat) (cs : List Char)
    (hlast : last ≤ offset) :
    (paragraphBreaksFrom offset newlines last cs).Pairwise (· < ·) ∧
      ∀ m ∈ paragraphBreaksFrom offset newlines last cs, 2 ≤ newlines ∧ m = last ∨ offset < m := by
  induction cs generalizing offset newlines last with
  | nil =>
      rw [paragraphBreaksFrom]
      split
      · rename_i hopen
        exact ⟨List.pairwise_singleton _ _, by simp [hopen]⟩
      · exact ⟨List.Pairwise.nil, by simp⟩
  | cons c cs ih =>
      have hc := c.utf8Size_pos
      simp only [paragraphBreaksFrom]
      split
      · -- A newline moves the end of the open break behind it.
        obtain ⟨hrest, hlater⟩ := ih (newlines + 1) (Nat.le_refl (offset + c.utf8Size))
        refine ⟨hrest, ?_⟩
        intro m hm
        have hplace := hlater m hm
        omega
      · split
        · obtain ⟨hrest, hlater⟩ := ih newlines (hlast.trans (Nat.le_add_right offset c.utf8Size))
          refine ⟨hrest, ?_⟩
          intro m hm
          have hplace := hlater m hm
          omega
        · obtain ⟨hrest, hlater⟩ := ih 0 (Nat.zero_le (offset + c.utf8Size))
          have hbehind : ∀ m ∈ paragraphBreaksFrom (offset + c.utf8Size) 0 0 cs, offset < m := by
            intro m hm
            have hplace := hlater m hm
            omega
          split
          · rename_i hopen
            constructor
            · refine List.pairwise_cons.mpr ⟨?_, hrest⟩
              intro m hm
              exact hlast.trans_lt (hbehind m hm)
            · intro m hm
              rcases List.mem_cons.mp hm with rfl | hm
              · exact Or.inl ⟨hopen, rfl⟩
              · exact Or.inr (hbehind m hm)
          · exact ⟨hrest, fun m hm => Or.inr (hbehind m hm)⟩

/-! ## Counting places -/

variable {offsets : List Nat}

/-- **The boundaries inside a text**: all but its two ends. -/
def inside (text : List Char) (offsets : List Nat) : List Nat :=
  offsets.filter fun n => decide (0 < n ∧ n < byteLength text)

/-- **What is counted beyond the different places inside a text**: a paragraph break for a second
time, when the starts of lines join in, and a coarser place at the end of the text. -/
def extra (cs : List Char) : Nat :=
  (if (paragraphBreaks cs).length < fewParagraphs then (paragraphBreaks cs).length else 0) +
    if byteLength cs ∈ coarser cs then 1 else 0

/-- A coarser place is the end of the text or a boundary inside it. -/
theorem mem_inside_of_mem_coarser (h : find text = .ok offsets) (hn : n ∈ coarser text) :
    n = byteLength text ∨ n ∈ inside text offsets := by
  have hcandidate := mem_candidates_of_mem_coarser hn
  obtain ⟨before, c, behind, rfl, -, rfl⟩ := afterBlank_of_mem_candidates hcandidate
  have hmem := (mem_find h).mpr (Or.inr (Or.inr hcandidate))
  have hc := c.utf8Size_pos
  by_cases hend : behind = []
  · exact Or.inl (by simp [hend])
  · -- What stands behind the place has bytes.
    have hbehind := byteLength_pos_iff.mpr hend
    refine Or.inr (List.mem_filter.mpr ⟨hmem, ?_⟩)
    simp only [byteLength_append, byteLength_cons, decide_eq_true_eq]
    omega

/-- Coarser places that are all different are no more than the boundaries inside the text, and
one more when the text ends with one. -/
theorem length_le_inside (h : find text = .ok offsets) {places : List Nat}
    (hplaces : places.Pairwise (· < ·)) (hcoarser : places ⊆ coarser text) :
    places.length ≤
      (inside text offsets).length + if byteLength text ∈ coarser text then 1 else 0 := by
  have hdistinct : places.Nodup := hplaces.imp Nat.ne_of_lt
  by_cases hend : byteLength text ∈ coarser text
  · have hsubset : places ⊆ byteLength text :: inside text offsets := by
      intro m hm
      exact List.mem_cons.mpr (mem_inside_of_mem_coarser h (hcoarser hm))
    simpa [hend] using (List.subperm_of_subset hdistinct hsubset).length_le
  · have hsubset : places ⊆ inside text offsets := by
      intro m hm
      rcases mem_inside_of_mem_coarser h (hcoarser hm) with rfl | hinside
      · exact absurd (hcoarser hm) hend
      · exact hinside
    simpa [hend] using (List.subperm_of_subset hdistinct hsubset).length_le

/-- **The coarser places** are no more than the boundaries inside the text and what is counted
beyond them. -/
theorem length_coarser_le (h : find text = .ok offsets) :
    (coarser text).length ≤ (inside text offsets).length + extra text := by
  have hbreaks : (paragraphBreaks text).Pairwise (· < ·) :=
    (paragraphBreaksFrom_ascends 0 text (Nat.le_refl 0)).1
  have hlines : (lineStarts text).Pairwise (· < ·) := (lineStartsFrom_ascends 0 text).1
  rw [extra]
  by_cases hfew : (paragraphBreaks text).length < fewParagraphs
  · have hcoarser : coarser text = paragraphBreaks text ++ lineStarts text := if_pos hfew
    have hle := length_le_inside h hlines (hcoarser ▸ List.subset_append_right _ _)
    rw [if_pos hfew, hcoarser, List.length_append, ← hcoarser]
    omega
  · have hcoarser : coarser text = paragraphBreaks text := if_neg hfew
    have hle := length_le_inside h hbreaks (hcoarser ▸ List.Subset.refl _)
    rw [if_neg hfew]
    rw [← hcoarser] at hle
    omega

/-! ## Sentences that divide a text -/

/-- The sentences divide a text whose coarser places are few. -/
theorem sentenceEnd_mem_of_few (h : find text = .ok offsets)
    (hfew : (coarser text).length < fewLines) (hn : SentenceEnd text n) : n ∈ offsets := by
  refine (mem_find h).mpr (Or.inr (Or.inr ?_))
  rw [candidates_eq, if_pos hfew]
  exact List.mem_append_right _ (mem_sentenceEnds_iff.mpr hn)

/-- No sentence ends at the start of a text. -/
theorem SentenceEnd.ne_zero (h : SentenceEnd text n) : n ≠ 0 := by
  obtain ⟨lead, mark, gap, rest, -, -, -, -, -, rfl⟩ := h
  have hmark := mark.utf8Size_pos
  simp only [byteLength_append, byteLength_cons]
  omega

/-- **Which sentences divide a text.** All of them do exactly when the coarser places are few, or
when each sentence ends at one of them or with the text. They are few in particular when the
boundaries inside the text are, with what is counted beyond them. -/
theorem sentenceEnd_mem_find_iff (h : find text = .ok offsets) :
    ((∀ n, SentenceEnd text n → n ∈ offsets) ↔
        (coarser text).length < fewLines ∨
          ∀ n, SentenceEnd text n → n = byteLength text ∨ n ∈ coarser text) ∧
      ((inside text offsets).length + extra text < fewLines →
        ∀ n, SentenceEnd text n → n ∈ offsets) := by
  refine ⟨⟨fun hall => ?_, ?_⟩, fun hfew n hn => ?_⟩
  · by_cases hfew : (coarser text).length < fewLines
    · exact Or.inl hfew
    · refine Or.inr fun n hn => ?_
      have hmem := (mem_find h).mp (hall n hn)
      rw [candidates_eq, if_neg hfew] at hmem
      exact hmem.resolve_left hn.ne_zero
  · rintro (hfew | hplaces) n hn
    · exact sentenceEnd_mem_of_few h hfew hn
    · exact (mem_find h).mpr (Or.inr ((hplaces n hn).imp_right mem_candidates_of_mem_coarser))
  · have hcount := length_coarser_le h
    exact sentenceEnd_mem_of_few h (by omega) hn

/-- Two sentences before a paragraph break: the break counts as three places, and they are few. -/
theorem sentenceEnd_mem_find_two :
    find "Go on. Rest!\n\nSleep".toList = .ok [0, 7, 13, 14, 19] ∧
      coarser "Go on. Rest!\n\nSleep".toList = [14, 13, 14] ∧
      extra "Go on. Rest!\n\nSleep".toList = 1 ∧
      ∀ n, SentenceEnd "Go on. Rest!\n\nSleep".toList n → n ∈ [0, 7, 13, 14, 19] := by
  have h : find "Go on. Rest!\n\nSleep".toList = .ok [0, 7, 13, 14, 19] := by decide +kernel
  exact ⟨h, by decide +kernel, by decide +kernel,
    (sentenceEnd_mem_find_iff h).2 (by decide +kernel)⟩

/-- Sentences may not divide a text although there are few boundaries inside it: seven paragraph
breaks give fourteen of them and count as twenty-one places. -/
theorem sentenceEnd_not_mem_find_seven :
    ¬ ∀ (text : List Char) (offsets : List Nat), find text = .ok offsets →
      (inside text offsets).length < fewLines → ∀ n, SentenceEnd text n → n ∈ offsets := by
  intro h
  have hfind :
      find "A. B\n\nA. B\n\nA. B\n\nA. B\n\nA. B\n\nA. B\n\nA. B\n\nC".toList =
        .ok [0, 5, 6, 11, 12, 17, 18, 23, 24, 29, 30, 35, 36, 41, 42, 43] := by
    decide +kernel
  have hmem := h _ _ hfind (by decide +kernel) 3 (mem_sentenceEnds_iff.mp (by decide +kernel))
  exact absurd hmem (by decide)

end Courseware.Boundary
