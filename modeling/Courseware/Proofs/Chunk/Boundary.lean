import Courseware.Chunk.Boundary
import Courseware.Proofs.Text.Cut

/-! # Where boundaries lie

Every place that may divide a text, its two ends apart, lies directly after a blank
(`afterBlank_of_mem_candidates`). So a boundary never splits a character
(`isBoundary_of_mem_find`), and the row that `find` gives has both ends of the text in it. The row
ascends (`pairwise_find`), so it begins with the start of the text and has no offset twice. -/

namespace Courseware.Boundary

open Text

/-- **Directly after a blank**: the offset is the end of a start of the text whose last character
is blank. -/
def AfterBlank (cs : List Char) (n : Nat) : Prop :=
  ∃ xs c ys, cs = xs ++ c :: ys ∧ isBlank c = true ∧ n = byteLength xs + c.utf8Size

/-- An offset after a blank splits no character. -/
theorem AfterBlank.isBoundary {cs : List Char} {n : Nat} (h : AfterBlank cs n) :
    IsBoundary cs n := by
  obtain ⟨xs, c, ys, rfl, -, rfl⟩ := h
  exact ⟨xs ++ [c], ⟨ys, by simp⟩, by simp⟩

theorem isBlank_newline : isBlank '\n' = true := by decide

/-- A sentence mark is no blank. -/
theorem isBlank_eq_false_of_isSentenceMark {c : Char} (h : isSentenceMark c = true) :
    isBlank c = false := by
  simp only [isSentenceMark, Bool.or_eq_true, beq_iff_eq] at h
  rcases h with (rfl | rfl) | rfl <;> decide

/-! ## The three kinds of boundaries

Each scan is followed from a place in the text on: `before` has been read, `cs` is left. -/

variable {text : List Char} {n : Nat}

/-- Reading the next character moves it from what is left to what has been read. -/
theorem read_next {before cs : List Char} {c : Char} (htext : before ++ c :: cs = text) :
    before ++ [c] ++ cs = text ∧ byteLength before + c.utf8Size = byteLength (before ++ [c]) := by
  constructor
  · rw [← htext, List.append_assoc, List.singleton_append]
  · rw [byteLength_append, byteLength_cons, byteLength_nil, Nat.add_zero]

/-- The end of a paragraph break lies after a newline. A blank run with newlines already read
carries the end of its last one along. -/
theorem afterBlank_of_mem_paragraphBreaksFrom {before cs : List Char} {newlines last : Nat}
    (htext : before ++ cs = text) (hlast : newlines ≠ 0 → AfterBlank text last)
    (h : n ∈ paragraphBreaksFrom (byteLength before) newlines last cs) : AfterBlank text n := by
  induction cs generalizing before newlines last with
  | nil =>
      rw [paragraphBreaksFrom] at h
      split at h
      · rw [List.mem_singleton.mp h]
        exact hlast (by omega)
      · cases h
  | cons c cs ih =>
      obtain ⟨hread, hoffset⟩ := read_next htext
      simp only [paragraphBreaksFrom] at h
      rw [hoffset] at h
      -- A newline moves the last newline here, another blank keeps it, and the run ends otherwise.
      split at h
      · rename_i hc
        refine ih hread (fun _ => ?_) h
        exact ⟨before, c, cs, htext.symm, hc ▸ isBlank_newline, by simp⟩
      · split at h
        · exact ih hread hlast h
        · split at h
          · rcases List.mem_cons.mp h with rfl | h
            · exact hlast (by omega)
            · exact ih hread (fun h0 => absurd rfl h0) h
          · exact ih hread (fun h0 => absurd rfl h0) h

/-- The start of a line lies after a newline. -/
theorem afterBlank_of_mem_lineStartsFrom {before cs : List Char} (htext : before ++ cs = text)
    (h : n ∈ lineStartsFrom (byteLength before) cs) : AfterBlank text n := by
  induction cs generalizing before with
  | nil => cases h
  | cons c cs ih =>
      obtain ⟨hread, hoffset⟩ := read_next htext
      simp only [lineStartsFrom] at h
      rw [hoffset] at h
      split at h
      · rename_i hc
        rcases List.mem_cons.mp h with rfl | h
        · exact ⟨before, c, cs, htext.symm, hc ▸ isBlank_newline, by simp⟩
        · exact ih hread h
      · exact ih hread h

/-- A scan that is in the gap after a sentence has just read a blank. -/
theorem isBlank_of_next_eq_gap {scan : SentenceScan} {c : Char} (h : scan.next c = .gap) :
    isBlank c = true := by
  unfold SentenceScan.next at h
  split at h
  · assumption
  · split at h <;> cases h

/-- The end of a sentence lies after a blank. -/
theorem afterBlank_of_mem_sentenceEndsFrom {before cs : List Char} {scan : SentenceScan}
    (htext : before ++ cs = text) (hscan : scan = .gap → AfterBlank text (byteLength before))
    (h : n ∈ sentenceEndsFrom (byteLength before) scan cs) : AfterBlank text n := by
  induction cs generalizing before scan with
  | nil =>
      rw [sentenceEndsFrom] at h
      split at h
      · rename_i hgap
        rw [List.mem_singleton.mp h]
        exact hscan hgap
      · cases h
  | cons c cs ih =>
      obtain ⟨hread, hoffset⟩ := read_next htext
      have hnext : scan.next c = .gap → AfterBlank text (byteLength (before ++ [c])) :=
        fun hgap => ⟨before, c, cs, htext.symm, isBlank_of_next_eq_gap hgap, hoffset.symm⟩
      -- A sentence ends here when the gap after it does, and then a blank was read before.
      simp only [sentenceEndsFrom] at h
      rw [hoffset] at h
      split at h
      · rename_i hgap
        rcases List.mem_cons.mp h with rfl | h
        · exact hscan hgap.1
        · exact ih hread hnext h
      · exact ih hread hnext h

/-- A place that may divide a text is of one of the three kinds. -/
theorem mem_of_mem_candidates (h : n ∈ candidates text) :
    n ∈ paragraphBreaks text ∨ n ∈ lineStarts text ∨ n ∈ sentenceEnds text := by
  simp only [candidates] at h
  split at h <;> split at h <;> grind

/-- **Every place that may divide a text** lies directly after a blank. -/
theorem afterBlank_of_mem_candidates (h : n ∈ candidates text) : AfterBlank text n := by
  rcases mem_of_mem_candidates h with h | h | h
  · exact afterBlank_of_mem_paragraphBreaksFrom (List.nil_append text) (fun h0 => absurd rfl h0) h
  · exact afterBlank_of_mem_lineStartsFrom (List.nil_append text) h
  · have hscan : SentenceScan.inside = .gap → AfterBlank text (byteLength []) := nofun
    exact afterBlank_of_mem_sentenceEndsFrom (List.nil_append text) hscan h

/-! ## The row of boundaries -/

variable {offsets : List Nat}

/-- A row ascends when an offset is put in its place. -/
theorem pairwise_insert {offset : Nat} (h : offsets.Pairwise (· < ·)) :
    (insert offset offsets).Pairwise (· < ·) := by
  induction offsets with
  | nil => exact List.pairwise_singleton _ _
  | cons first rest ih =>
      obtain ⟨hfirst, hrest⟩ := List.pairwise_cons.mp h
      rw [insert]
      split
      · rename_i hlt
        refine List.pairwise_cons.mpr ⟨?_, h⟩
        intro n hn
        rcases List.mem_cons.mp hn with rfl | hn
        · exact hlt
        · exact hlt.trans (hfirst n hn)
      · split
        · exact h
        · refine List.pairwise_cons.mpr ⟨?_, ih hrest⟩
          intro n hn
          rcases mem_insert.mp hn with rfl | hn
          · omega
          · exact hfirst n hn

/-- Offsets in order ascend. -/
theorem pairwise_ascending (offsets : List Nat) : (ascending offsets).Pairwise (· < ·) := by
  induction offsets with
  | nil => exact List.Pairwise.nil
  | cons first rest ih => exact pairwise_insert ih

/-- The row of boundaries has the two ends of the text and every place that may divide it. -/
theorem mem_find (h : find text = .ok offsets) :
    n ∈ offsets ↔ n = 0 ∨ n = byteLength text ∨ n ∈ candidates text := by
  simp only [find] at h
  split at h
  · cases h
  · cases h
    rw [mem_ascending, List.mem_cons, List.mem_cons]

/-- **The boundaries ascend.** -/
theorem pairwise_find (h : find text = .ok offsets) : offsets.Pairwise (· < ·) := by
  simp only [find] at h
  split at h
  · cases h
  · cases h
    exact pairwise_ascending _

/-- The first boundary is the start of the text. -/
theorem exists_find_eq_cons (h : find text = .ok offsets) : ∃ rest, offsets = 0 :: rest := by
  have hzero : 0 ∈ offsets := (mem_find h).mpr (Or.inl rfl)
  cases offsets with
  | nil => cases hzero
  | cons first rest =>
      -- The start of the text is in the row, and nothing in the row comes before its first offset.
      rcases List.mem_cons.mp hzero with rfl | hin
      · exact ⟨rest, rfl⟩
      · have hlt := (List.pairwise_cons.mp (pairwise_find h)).1 0 hin
        omega

/-- **No boundary splits a character.** -/
theorem isBoundary_of_mem_find (h : find text = .ok offsets) (hn : n ∈ offsets) :
    IsBoundary text n := by
  rcases (mem_find h).mp hn with rfl | rfl | hcand
  · exact isBoundary_zero text
  · exact isBoundary_byteLength text
  · exact (afterBlank_of_mem_candidates hcand).isBoundary

end Courseware.Boundary
