import Courseware.Proofs.Chunk.Sentence

/-! # Which texts have boundaries

A text has boundaries when something inside it divides it. However many places are counted, and
whichever kinds of them join in, that is so exactly when a line or a sentence begins inside the text
(`exists_candidate_lt_iff`).

* **A divisible text** has a row of boundaries from its start to its end, and every other text has
  none (`find_divisible`).
-/

namespace Courseware.Boundary

open Text

variable {text : List Char} {n : Nat}

/-- **A divisible text**: something stands behind a newline, or a character that is not blank stands
behind a sentence mark and blanks that directly follow it. -/
inductive Divisible : List Char → Prop where
  /-- A line begins inside the text. -/
  | line (before : List Char) {behind : List Char} (hbehind : behind ≠ []) :
      Divisible (before ++ '\n' :: behind)
  /-- A sentence begins inside the text. -/
  | sentence (before : List Char) {mark : Char} {gap : List Char} {c : Char} (behind : List Char)
      (hmark : isSentenceMark mark = true) (hne : gap ≠ []) (hgap : isBlankText gap = true)
      (hc : isBlank c = false) : Divisible (before ++ mark :: gap ++ c :: behind)

/-- **A row of boundaries** of a text. -/
structure Row (text : List Char) (offsets : List Nat) : Prop where
  /-- The row ascends. -/
  ascends : offsets.Pairwise (· < ·)
  /-- It begins with the start of the text. -/
  first : offsets.head? = some 0
  /-- It ends with the end of the text. -/
  last : offsets.getLast? = some (byteLength text)
  /-- What is in between splits no character and lies directly after a blank. -/
  inside : ∀ n ∈ offsets, 0 < n → n < byteLength text → IsBoundary text n ∧ AfterBlank text n

/-! ## Where lines and sentences begin -/

/-- The scan from a place in a text on finds what stands behind the newlines. -/
theorem mem_lineStartsFrom_iff {offset : Nat} {cs : List Char} :
    n ∈ lineStartsFrom offset cs ↔
      ∃ before behind, cs = before ++ '\n' :: behind ∧ n = offset + byteLength before + 1 := by
  have hnewline : '\n'.utf8Size = 1 := rfl
  induction cs generalizing offset with
  | nil => simp [lineStartsFrom]
  | cons c cs ih =>
      constructor
      · intro h
        simp only [lineStartsFrom] at h
        have hrest : n ∈ lineStartsFrom (offset + c.utf8Size) cs →
            ∃ before behind, c :: cs = before ++ '\n' :: behind ∧
              n = offset + byteLength before + 1 := by
          intro hn
          obtain ⟨before, behind, rfl, rfl⟩ := ih.mp hn
          exact ⟨c :: before, behind, rfl, by rw [byteLength_cons]; omega⟩
        split at h
        · rename_i hc
          subst hc
          rcases List.mem_cons.mp h with rfl | h
          · exact ⟨[], cs, rfl, rfl⟩
          · exact hrest h
        · exact hrest h
      · rintro ⟨before, behind, hcs, hn⟩
        simp only [lineStartsFrom]
        cases before with
        | nil =>
            obtain ⟨rfl, rfl⟩ := List.cons.inj hcs
            rw [if_pos rfl, hn]
            exact List.mem_cons_self
        | cons d before =>
            obtain ⟨rfl, rfl⟩ := List.cons.inj hcs
            rw [byteLength_cons, ← Nat.add_assoc] at hn
            have hmem := ih.mpr ⟨before, behind, rfl, hn⟩
            split
            · exact List.mem_cons_of_mem _ hmem
            · exact hmem

/-- **A paragraph break is the start of a line**, unless it is one that was open before. -/
theorem mem_lineStartsFrom_of_mem_paragraphBreaksFrom {offset newlines last : Nat} {cs : List Char}
    (h : n ∈ paragraphBreaksFrom offset newlines last cs) :
    2 ≤ newlines ∧ n = last ∨ n ∈ lineStartsFrom offset cs := by
  induction cs generalizing offset newlines last with
  | nil =>
      rw [paragraphBreaksFrom] at h
      split at h
      · rename_i hopen
        exact Or.inl ⟨hopen, List.mem_singleton.mp h⟩
      · cases h
  | cons c cs ih =>
      simp only [paragraphBreaksFrom] at h
      simp only [lineStartsFrom]
      split at h
      · rename_i hc
        rw [if_pos hc, List.mem_cons]
        exact Or.inr ((ih h).imp_left And.right)
      · rename_i hc
        rw [if_neg hc]
        split at h
        · exact ih h
        · -- The run has ended, and none is open behind it.
          have hrest : n ∈ paragraphBreaksFrom (offset + c.utf8Size) 0 0 cs →
              n ∈ lineStartsFrom (offset + c.utf8Size) cs := by
            intro hn
            exact (ih hn).resolve_left fun hopen => absurd hopen.1 (by decide)
          split at h
          · rename_i hopen
            exact (List.mem_cons.mp h).imp (And.intro hopen) hrest
          · exact Or.inr (hrest h)

/-- The paragraph breaks of a text are starts of lines. -/
theorem mem_lineStarts_of_mem_paragraphBreaks (h : n ∈ paragraphBreaks text) :
    n ∈ lineStarts text := by
  rcases mem_lineStartsFrom_of_mem_paragraphBreaksFrom h with ⟨hopen, -⟩ | hline
  · -- Before the text no break is open.
    exact absurd hopen (by decide)
  · exact hline

/-- A line begins inside the text when something stands behind a newline. -/
theorem exists_lineStart_lt_iff :
    (∃ n ∈ lineStarts text, n < byteLength text) ↔
      ∃ before behind, text = before ++ '\n' :: behind ∧ behind ≠ [] := by
  have hsize : ∀ before behind, byteLength (before ++ '\n' :: behind) =
      byteLength before + 1 + byteLength behind := by
    intro before behind
    rw [byteLength_append, byteLength_cons, ← Nat.add_assoc]
    rfl
  constructor
  · rintro ⟨n, hn, hlt⟩
    obtain ⟨before, behind, rfl, rfl⟩ := mem_lineStartsFrom_iff.mp hn
    rw [hsize] at hlt
    exact ⟨before, behind, rfl, byteLength_pos_iff.mp (by omega)⟩
  · rintro ⟨before, behind, rfl, hbehind⟩
    have hpos := byteLength_pos_iff.mpr hbehind
    refine ⟨byteLength before + 1, mem_lineStartsFrom_iff.mpr ⟨before, behind, rfl, ?_⟩, ?_⟩
    · rw [Nat.zero_add]
    · rw [hsize]
      omega

/-- A sentence begins inside the text when a character that is not blank stands behind the gap. -/
theorem exists_sentenceEnd_lt_iff :
    (∃ n ∈ sentenceEnds text, n < byteLength text) ↔
      ∃ before mark gap c behind, text = before ++ mark :: gap ++ c :: behind ∧
        isSentenceMark mark = true ∧ gap ≠ [] ∧ isBlankText gap = true ∧ isBlank c = false := by
  constructor
  · rintro ⟨n, hn, hlt⟩
    obtain ⟨before, mark, gap, rest, rfl, hmark, hne, hgap, hrest, rfl⟩ := mem_sentenceEnds_iff.mp hn
    cases rest with
    | nil => simp at hlt
    | cons c behind => exact ⟨before, mark, gap, c, behind, rfl, hmark, hne, hgap, hrest c rfl⟩
  · rintro ⟨before, mark, gap, c, behind, rfl, hmark, hne, hgap, hc⟩
    refine ⟨byteLength (before ++ mark :: gap), mem_sentenceEnds_iff.mpr ?_, ?_⟩
    · exact ⟨before, mark, gap, c :: behind, rfl, hmark, hne, hgap, by simpa using hc, rfl⟩
    · have hpos := c.utf8Size_pos
      rw [byteLength_append (before ++ mark :: gap), byteLength_cons]
      omega

/-- **A text is divisible** when a line or a sentence begins inside it. -/
theorem divisible_iff :
    Divisible text ↔
      (∃ n ∈ lineStarts text, n < byteLength text) ∨
        ∃ n ∈ sentenceEnds text, n < byteLength text := by
  rw [exists_lineStart_lt_iff, exists_sentenceEnd_lt_iff]
  constructor
  · rintro (⟨before, hbehind⟩ | ⟨before, behind, hmark, hne, hgap, hc⟩)
    · exact Or.inl ⟨before, _, rfl, hbehind⟩
    · exact Or.inr ⟨before, _, _, _, behind, rfl, hmark, hne, hgap, hc⟩
  · rintro (⟨before, behind, rfl, hbehind⟩ | ⟨before, mark, gap, c, behind, rfl, hmark, hne, hgap, hc⟩)
    · exact .line before hbehind
    · exact .sentence before behind hmark hne hgap hc

/-! ## Places inside a text -/

/-- A place after a blank lies behind the start of the text. -/
theorem AfterBlank.pos (h : AfterBlank text n) : 0 < n := by
  obtain ⟨xs, c, ys, -, -, rfl⟩ := h
  exact Nat.add_pos_right _ c.utf8Size_pos

/-- Of several coarser places one lies before the end of the text. -/
theorem exists_lt_of_two_le {places : List Nat} (hplaces : places.Pairwise (· < ·))
    (hcoarser : places ⊆ coarser text) (htwo : 2 ≤ places.length) :
    ∃ n ∈ coarser text, n < byteLength text := by
  match places with
  | first :: second :: rest =>
      have hlt : first < second := (List.pairwise_cons.mp hplaces).1 second List.mem_cons_self
      have hmem : second ∈ coarser text := hcoarser (by simp)
      have hblank := afterBlank_of_mem_candidates (mem_candidates_of_mem_coarser hmem)
      exact ⟨first, hcoarser List.mem_cons_self, hlt.trans_le hblank.isBoundary.le⟩

/-- **Many coarser places** do not all lie at the end of the text: ten paragraph breaks are enough,
and so are as many starts of lines. -/
theorem exists_coarser_lt (h : fewParagraphs ≤ (paragraphBreaks text).length ∨
      fewLines ≤ (coarser text).length) : ∃ n ∈ coarser text, n < byteLength text := by
  have hbreaks : (paragraphBreaks text).Pairwise (· < ·) :=
    (paragraphBreaksFrom_ascends 0 text (Nat.le_refl 0)).1
  have hlines : (lineStarts text).Pairwise (· < ·) := (lineStartsFrom_ascends 0 text).1
  simp only [fewParagraphs, fewLines] at h
  by_cases hfew : (paragraphBreaks text).length < fewParagraphs
  · have hcoarser : coarser text = paragraphBreaks text ++ lineStarts text := if_pos hfew
    rw [hcoarser, List.length_append] at h
    rw [fewParagraphs] at hfew
    exact exists_lt_of_two_le hlines (hcoarser ▸ List.subset_append_right _ _) (by omega)
  · have hcoarser : coarser text = paragraphBreaks text := if_neg hfew
    rw [fewParagraphs] at hfew
    exact exists_lt_of_two_le hbreaks (hcoarser ▸ List.Subset.refl _) (by omega)

/-- **What divides a text from the inside**: some place that may divide it, whichever kinds join in,
exactly when it is divisible. -/
theorem exists_candidate_lt_iff :
    (∃ n ∈ candidates text, n < byteLength text) ↔ Divisible text := by
  rw [divisible_iff]
  constructor
  · rintro ⟨n, hn, hlt⟩
    rcases mem_of_mem_candidates hn with hbreak | hline | hsentence
    · exact Or.inl ⟨n, mem_lineStarts_of_mem_paragraphBreaks hbreak, hlt⟩
    · exact Or.inl ⟨n, hline, hlt⟩
    · exact Or.inr ⟨n, hsentence, hlt⟩
  · have hcandidate : (∃ n ∈ coarser text, n < byteLength text) →
        ∃ n ∈ candidates text, n < byteLength text := by
      rintro ⟨n, hn, hlt⟩
      exact ⟨n, mem_candidates_of_mem_coarser hn, hlt⟩
    rintro (⟨n, hn, hlt⟩ | ⟨n, hn, hlt⟩)
    · -- The starts of lines join in, or there are many paragraph breaks.
      by_cases hfew : (paragraphBreaks text).length < fewParagraphs
      · have hcoarser : coarser text = paragraphBreaks text ++ lineStarts text := if_pos hfew
        exact hcandidate ⟨n, hcoarser ▸ List.mem_append_right _ hn, hlt⟩
      · exact hcandidate (exists_coarser_lt (Or.inl (Nat.le_of_not_lt hfew)))
    · -- The ends of sentences join in, or there are many coarser places.
      by_cases hfew : (coarser text).length < fewLines
      · refine ⟨n, ?_, hlt⟩
        rw [candidates_eq, if_pos hfew]
        exact List.mem_append_right _ hn
      · exact hcandidate (exists_coarser_lt (Or.inr (Nat.le_of_not_lt hfew)))

/-! ## The row of boundaries -/

/-- A row from the start of a text to its end has a third offset when something is in between. -/
theorem two_lt_length_iff {row : List Nat} {stop : Nat} (hrow : row.Pairwise (· < ·))
    (hzero : 0 ∈ row) (hstop : stop ∈ row) (hle : ∀ n ∈ row, n ≤ stop) :
    2 < row.length ↔ ∃ n ∈ row, 0 < n ∧ n < stop := by
  constructor
  · intro hlong
    by_contra hnone
    -- With nothing in between, the row is a part of its two ends.
    have hsubset : row ⊆ [0, stop] := by
      intro n hn
      have hbound := hle n hn
      have hends : n = 0 ∨ n = stop := by
        by_contra hinside
        exact hnone ⟨n, hn, by omega⟩
      simpa using hends
    have hlength := (List.subperm_of_subset (hrow.imp Nat.ne_of_lt) hsubset).length_le
    exact absurd hlength (Nat.not_le_of_lt hlong)
  · rintro ⟨n, hn, hpos, hlt⟩
    have hthree : [0, n, stop].Pairwise (· < ·) := by simp [hpos, hlt, hpos.trans hlt]
    have hsubset : [0, n, stop] ⊆ row := by simp [hzero, hn, hstop]
    exact (List.subperm_of_subset (hthree.imp Nat.ne_of_lt) hsubset).length_le

/-- **Three offsets are in order** exactly when the text is divisible. -/
theorem two_lt_length_ascending_iff :
    2 < (ascending (0 :: byteLength text :: candidates text)).length ↔ Divisible text := by
  have hmem : ∀ n, n ∈ ascending (0 :: byteLength text :: candidates text) ↔
      n = 0 ∨ n = byteLength text ∨ n ∈ candidates text := by
    intro n
    rw [mem_ascending, List.mem_cons, List.mem_cons]
  have hend : byteLength text ∈ ascending (0 :: byteLength text :: candidates text) :=
    (hmem _).mpr (Or.inr (Or.inl rfl))
  rw [two_lt_length_iff (pairwise_ascending _) ((hmem 0).mpr (Or.inl rfl)) hend,
    ← exists_candidate_lt_iff]
  · constructor
    · rintro ⟨n, hn, hpos, hlt⟩
      exact ⟨n, (((hmem n).mp hn).resolve_left hpos.ne').resolve_left hlt.ne, hlt⟩
    · rintro ⟨n, hn, hlt⟩
      exact ⟨n, (hmem n).mpr (Or.inr (Or.inr hn)), (afterBlank_of_mem_candidates hn).pos, hlt⟩
  · intro n hn
    rcases (hmem n).mp hn with rfl | rfl | hcandidate
    · exact Nat.zero_le _
    · exact Nat.le_refl _
    · exact (afterBlank_of_mem_candidates hcandidate).isBoundary.le

/-- The last boundary is the end of the text. -/
theorem exists_find_eq_concat {offsets : List Nat} (h : find text = .ok offsets) :
    ∃ front, offsets = front ++ [byteLength text] := by
  have hend : byteLength text ∈ offsets := (mem_find h).mpr (Or.inr (Or.inl rfl))
  rcases List.eq_nil_or_concat offsets with rfl | ⟨front, last, hconcat⟩
  · cases hend
  · rw [List.concat_eq_append] at hconcat
    subst hconcat
    -- The end of the text is in the row, and nothing in the row comes behind its last offset.
    rcases List.mem_append.mp hend with hfront | hlast
    · have hlt := (List.pairwise_append.mp (pairwise_find h)).2.2 _ hfront last (by simp)
      have hlast : last ∈ front ++ [last] := by simp
      have hle := (isBoundary_of_mem_find h hlast).le
      omega
    · exact ⟨front, by rw [List.mem_singleton.mp hlast]⟩

/-- **The boundaries of a text are a row.** -/
theorem row_of_find {offsets : List Nat} (h : find text = .ok offsets) : Row text offsets := by
  obtain ⟨rest, hfirst⟩ := exists_find_eq_cons h
  obtain ⟨front, hlast⟩ := exists_find_eq_concat h
  refine ⟨pairwise_find h, by rw [hfirst]; rfl, by rw [hlast, List.getLast?_concat], ?_⟩
  intro n hn hpos hlt
  have hcandidate := (((mem_find h).mp hn).resolve_left hpos.ne').resolve_left hlt.ne
  have hblank := afterBlank_of_mem_candidates hcandidate
  exact ⟨hblank.isBoundary, hblank⟩

/-- **Which texts have boundaries**: exactly the divisible ones. Their boundaries are a row from the
start of the text to its end, and of any other text only the length is told. -/
theorem find_divisible (text : List Char) :
    ((∃ offsets, find text = .ok offsets) ↔ Divisible text) ∧
      (∀ offsets, find text = .ok offsets → Row text offsets) ∧
      (¬Divisible text → find text = .error (.noBoundaries (byteLength text))) := by
  refine ⟨?_, fun _ => row_of_find, ?_⟩
  · rw [← two_lt_length_ascending_iff, ← Nat.not_le]
    simp only [find]
    split <;> simp_all
  · intro hnot
    have hshort := Nat.le_of_not_lt (mt two_lt_length_ascending_iff.mp hnot)
    simp only [find, if_pos hshort]

/-- Nothing begins inside a text that ends with its only newline and its only sentence. -/
example : find "It rains. \n".toList = .error (.noBoundaries 11) := by decide +kernel

end Courseware.Boundary
