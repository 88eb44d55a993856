import Courseware.Chunk.Split
import Courseware.Proofs.Chunk.Segment
import Courseware.Proofs.Chunk.Window
import Courseware.Proofs.Token

/-! # Splitting loses nothing

Whichever way a text is split, its chunks are numbered in order, and unless the text stays whole
they are the trimmed slices of spans that cover it, the blank ones left out
(`split_losesNothing`). -/

namespace Courseware.Chunk

open Text

/-! ## Chunks of pieces -/

@[simp] theorem map_ordinal_sequenceFrom (first : Nat) (texts : List String) :
    (sequenceFrom first texts).map Chunk.ordinal = List.range' first texts.length := by
  induction texts generalizing first with
  | nil => rfl
  | cons _ _ ih => simp [sequenceFrom, ih, List.range'_succ]

/-- The chunks of pieces are numbered from zero. -/
theorem map_ordinal_ofPieces (pieces : List (List Char)) :
    (ofPieces pieces).map Chunk.ordinal = List.range (ofPieces pieces).length := by
  rw [ofPieces, sequence, map_ordinal_sequenceFrom, length_sequenceFrom, List.range_eq_range']

/-- The texts of the chunks of pieces are the trimmed pieces, the blank ones left out. -/
theorem map_text_ofPieces (pieces : List (List Char)) :
    (ofPieces pieces).map (·.text.toList) =
      (pieces.filter fun piece => !isBlankText piece).map trim := by
  have hblank : ((fun piece : List Char => !piece.isEmpty) ∘ trim) =
      fun piece => !isBlankText piece := by
    funext piece
    rw [Function.comp_apply, Bool.not_inj_iff, Bool.eq_iff_iff, List.isEmpty_iff, trim_eq_nil_iff]
  have htext : (fun chunk : Chunk => chunk.text.toList) = String.toList ∘ Chunk.text := rfl
  rw [ofPieces, sequence, htext, ← List.map_map, map_text_sequenceFrom, List.map_map,
    List.filter_map, hblank]
  simp [Function.comp_def]

/-- A chunk of pieces is a trimmed piece that is not blank. -/
theorem exists_trim_of_mem_ofPieces {pieces : List (List Char)} {chunk : Chunk}
    (h : chunk ∈ ofPieces pieces) :
    ∃ piece ∈ pieces, isBlankText piece = false ∧ chunk.text.toList = trim piece := by
  have htext : chunk.text.toList ∈ (ofPieces pieces).map (·.text.toList) :=
    List.mem_map_of_mem h
  rw [map_text_ofPieces] at htext
  obtain ⟨piece, hpiece, htrim⟩ := List.mem_map.mp htext
  obtain ⟨hmem, hcontent⟩ := List.mem_filter.mp hpiece
  exact ⟨piece, hmem, by simpa using hcontent, htrim.symm⟩

/-- A chunk of pieces begins with a character that is not blank. -/
theorem exists_cons_of_mem_ofPieces {pieces : List (List Char)} {chunk : Chunk}
    (h : chunk ∈ ofPieces pieces) :
    ∃ c rest, chunk.text.toList = c :: rest ∧ isBlank c = false := by
  obtain ⟨piece, -, hcontent, htrim⟩ := exists_trim_of_mem_ofPieces h
  cases hcs : chunk.text.toList with
  | nil =>
      rw [hcs, eq_comm, trim_eq_nil_iff, hcontent] at htrim
      cases htrim
  | cons c rest => exact ⟨c, rest, rfl, isBlank_of_trim_eq_cons (htrim.symm.trans hcs)⟩

/-- Some chunk of covering slices holds every occurrence of a character that is not blank. -/
theorem exists_mem_ofPieces_containsAt {overlap : Nat} {spans : List Span}
    {before after : List Char} {c : Char} (h : Covers overlap (before ++ c :: after) 0 spans)
    (hc : isBlank c = false) :
    ∃ chunk ∈ ofPieces (spans.map (Span.text (before ++ c :: after))),
      ContainsAt chunk.text.toList before c after := by
  obtain ⟨span, hspan, hat⟩ := h.exists_containsAt
  generalize before ++ c :: after = cs at hat ⊢
  have hfilter : isBlankText (span.text cs) = false :=
    isBlankText_eq_false_iff.mpr ⟨c, hat.mem, hc⟩
  have hmem : trim (span.text cs) ∈ (ofPieces (spans.map (Span.text cs))).map (·.text.toList) := by
    rw [map_text_ofPieces]
    refine List.mem_map_of_mem (List.mem_filter.mpr ⟨List.mem_map_of_mem hspan, ?_⟩)
    rw [hfilter, Bool.not_false]
  obtain ⟨chunk, hchunk, htext⟩ := List.mem_map.mp hmem
  exact ⟨chunk, hchunk, htext ▸ hat.trim hc⟩

/-- Covering slices of a text that is not blank have a chunk. -/
theorem ofPieces_ne_nil {overlap : Nat} {cs : List Char} {spans : List Span}
    (h : Covers overlap cs 0 spans) (hcs : isBlankText cs = false) :
    ofPieces (spans.map (Span.text cs)) ≠ [] := by
  obtain ⟨before, c, after, rfl, -, hc⟩ := exists_eq_append_cons hcs
  obtain ⟨chunk, hmem, -⟩ := exists_mem_ofPieces_containsAt h hc
  exact List.ne_nil_of_mem hmem

/-! ## Splitting -/

variable {budget : ChunkBudget} {text : String}

/-- The chunks of packed segments are those of the pieces. -/
theorem exists_pieces_of_segment_chunks {chunks : List Chunk}
    (h : Segment.chunks budget text = .ok chunks) :
    ∃ packed, Segment.pieces budget text.toList = .ok packed ∧ chunks = ofPieces packed := by
  rw [Segment.chunks] at h
  cases hpieces : Segment.pieces budget text.toList with
  | error e =>
      rw [hpieces] at h
      cases h
  | ok packed =>
      refine ⟨packed, rfl, ?_⟩
      rw [hpieces] at h
      simp only [bind, Except.bind] at h
      split at h
      · cases h
      · cases h
        rfl

/-- The chunks of packed segments are those of covering slices. -/
theorem exists_covers_of_segment_chunks {chunks : List Chunk} (hne : text.toList ≠ [])
    (h : Segment.chunks budget text = .ok chunks) :
    ∃ spans, Covers (Token.toBytes budget.overlapTokens) text.toList 0 spans ∧
      chunks = ofPieces (spans.map (Span.text text.toList)) := by
  obtain ⟨packed, hpieces, rfl⟩ := exists_pieces_of_segment_chunks h
  obtain ⟨spans, hcovers, rfl⟩ := Segment.exists_covers_pieces hpieces hne
  exact ⟨spans, hcovers, rfl⟩

/-- The chunks cut by windows of a text that is not blank, when there is a budget. -/
theorem splitByWindows_eq (hmax : budget.maxTokens ≠ 0)
    (hblank : isBlankText text.toList = false) :
    splitByWindows budget text = ofPieces (Window.pieces (Token.toBytes budget.maxTokens)
      (Token.toBytes budget.overlapTokens) text.toList) := by
  have hne : text.toList ≠ [] := fun hnil => by simp [hnil] at hblank
  have hwidth := mt Token.toBytes_eq_zero_iff.mp hmax
  obtain ⟨spans, hcovers, hpieces⟩ := Window.exists_covers_pieces
    (Token.toBytes budget.overlapTokens) (Token.four_le_toBytes (Nat.pos_of_ne_zero hmax)) hne
  rw [splitByWindows, Window.chunks]
  simp only [if_neg hwidth, hpieces]
  cases hchunks : ofPieces (spans.map (Span.text text.toList)) with
  | nil => exact absurd hchunks (ofPieces_ne_nil hcovers hblank)
  | cons first rest => rfl

/-- The chunks cut by windows are those of covering slices, unless there is no budget. -/
theorem splitByWindows_cases (budget : ChunkBudget)
    (hblank : isBlankText text.toList = false) :
    (splitByWindows budget text = [⟨text, 0⟩] ∧ budget.maxTokens = 0) ∨
      ∃ spans, Covers (Token.toBytes budget.overlapTokens) text.toList 0 spans ∧
        splitByWindows budget text = ofPieces (spans.map (Span.text text.toList)) := by
  have hne : text.toList ≠ [] := fun hnil => by simp [hnil] at hblank
  by_cases hzero : budget.maxTokens = 0
  · have hwidth := Token.toBytes_eq_zero_iff.mpr hzero
    exact Or.inl ⟨by simp [splitByWindows, Window.chunks, hwidth], hzero⟩
  · obtain ⟨spans, hcovers, hpieces⟩ := Window.exists_covers_pieces
      (Token.toBytes budget.overlapTokens) (Token.four_le_toBytes (Nat.pos_of_ne_zero hzero)) hne
    exact Or.inr ⟨spans, hcovers, by rw [splitByWindows_eq hzero hblank, hpieces]⟩

/-- **Splitting a text** that is not blank: it stays whole, because it is short or the budget is
empty, or its chunks are those of slices that cover it. -/
theorem split_cases (budget : ChunkBudget) (h : blank text = false) :
    (split budget text = [⟨text, 0⟩] ∧
        (Token.estimate text.toList ≤ budget.maxTokens ∨ budget.maxTokens = 0)) ∨
      (budget.maxTokens < Token.estimate text.toList ∧
        ∃ spans, Covers (Token.toBytes budget.overlapTokens) text.toList 0 spans ∧
          split budget text = ofPieces (spans.map (Span.text text.toList))) := by
  have hne : text.toList ≠ [] := fun hnil => by simp [blank, hnil] at h
  rw [split, if_neg (by simp [h])]
  split
  · rename_i hshort
    exact Or.inl ⟨rfl, Or.inl hshort⟩
  · rename_i hlong
    split
    · rename_i chunks hchunks
      obtain ⟨spans, hcovers, rfl⟩ := exists_covers_of_segment_chunks hne hchunks
      exact Or.inr ⟨Nat.lt_of_not_le hlong, spans, hcovers, rfl⟩
    · rcases splitByWindows_cases budget h with ⟨hwhole, hzero⟩ | hcovers
      · exact Or.inl ⟨hwhole, Or.inr hzero⟩
      · exact Or.inr ⟨Nat.lt_of_not_le hlong, hcovers⟩

/-- A text that is not blank has a chunk. -/
theorem split_ne_nil (budget : ChunkBudget) (h : blank text = false) : split budget text ≠ [] := by
  rcases split_cases budget h with ⟨hwhole, -⟩ | ⟨-, spans, hcovers, hsplit⟩
  · rw [hwhole]
    exact List.cons_ne_nil _ _
  · rw [hsplit]
    exact ofPieces_ne_nil hcovers h

/-- No chunk is blank. -/
theorem blank_of_mem_split {chunk : Chunk} (budget : ChunkBudget) (h : blank text = false)
    (hmem : chunk ∈ split budget text) : blank chunk.text = false := by
  rcases split_cases budget h with ⟨hwhole, -⟩ | ⟨-, spans, -, hsplit⟩
  · rw [hwhole, List.mem_singleton] at hmem
    rw [hmem, h]
  · rw [hsplit] at hmem
    obtain ⟨c, rest, hcs, hc⟩ := exists_cons_of_mem_ofPieces hmem
    rw [blank, hcs, isBlankText_cons, hc, Bool.false_and]

/-- **Chunks that lose nothing of a text** and repeat no more than `overlap` bytes of it at a
time. -/
structure LosesNothing (overlap : Nat) (text : String) (chunks : List Chunk) : Prop where
  /-- There is a chunk. -/
  ne_nil : chunks ≠ []
  /-- The chunks are numbered in order. -/
  ordinals : chunks.map (·.ordinal) = List.range chunks.length
  /-- The text is the only chunk, or the chunks are the trimmed slices of spans that cover it,
  except for the blank slices. -/
  slices : chunks = [⟨text, 0⟩] ∨
    ∃ spans, Covers overlap text.toList 0 spans ∧
      chunks.map (·.text.toList) =
        ((spans.map (Span.text text.toList)).filter fun part => !isBlankText part).map trim
  /-- Every occurrence of a character that is not blank is in a chunk. -/
  kept : ∀ before c after, text.toList = before ++ c :: after → isBlank c = false →
    ∃ chunk ∈ chunks, ContainsAt chunk.text.toList before c after

/-- **Splitting loses nothing**, whatever the budget. -/
theorem split_losesNothing (budget : ChunkBudget) {text : String} (h : blank text = false) :
    LosesNothing (Token.toBytes budget.overlapTokens) text (split budget text) := by
  rcases split_cases budget h with ⟨hwhole, -⟩ | ⟨-, spans, hcovers, hsplit⟩
  · rw [hwhole]
    refine ⟨List.cons_ne_nil _ _, rfl, Or.inl rfl, fun before c after htext _ => ?_⟩
    exact ⟨⟨text, 0⟩, List.mem_singleton_self _, [], before, after, [], rfl, by simp, htext⟩
  · rw [hsplit]
    refine ⟨ofPieces_ne_nil hcovers h, map_ordinal_ofPieces _,
      Or.inr ⟨spans, hcovers, map_text_ofPieces _⟩, fun before c after htext hc => ?_⟩
    rw [htext] at hcovers ⊢
    exact exists_mem_ofPieces_containsAt hcovers hc

/-- Three sentences with an overlap of one token, the repeated bytes cut at a character. -/
theorem split_sentences_losesNothing :
    blank "Cells divide. The café is open. Plants grow." = false ∧
      (split ⟨4, 1⟩ "Cells divide. The café is open. Plants grow.").map (·.text) =
        ["Cells divide.", "de. The café is open.", "en. Plants grow."] ∧
      LosesNothing (Token.toBytes 1) "Cells divide. The café is open. Plants grow."
        (split ⟨4, 1⟩ "Cells divide. The café is open. Plants grow.") :=
  ⟨by decide, by decide +kernel, split_losesNothing ⟨4, 1⟩ (by decide)⟩

end Courseware.Chunk
