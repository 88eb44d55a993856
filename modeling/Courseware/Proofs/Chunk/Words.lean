import Courseware.Proofs.Chunk.Split
import Courseware.Proofs.Text.Words

/-! # Chunks without overlap keep the words

Every boundary inside a text lies after a blank, so every segment but the last one **ends blank**
(`isChain_cutAt`). A piece is closed before a segment, hence behind a blank, and without an overlap
the next piece begins with that segment alone: no word is cut or repeated (`flatMap_words_pack`).

* **The words of a text** are those of its chunks one after the other, when the chunks share
  nothing (`flatMap_words_chunks`).
-/

namespace Courseware

open Text

namespace Segment

/-! ## Segments end blank -/

section Cut

variable {before cs : List Char} {offsets : List Nat}

/-- What is cut off at an offset after a blank ends blank. -/
theorem endsBlank_of_afterBlank {text xs ys : List Char}
    (h : Boundary.AfterBlank text (byteLength (before ++ xs))) (htext : text = before ++ xs ++ ys)
    (hxs : xs ≠ []) : EndsBlank xs := by
  obtain ⟨front, c, rest, htext', hc, hoffset⟩ := h
  have hstart : before ++ xs = front ++ [c] :=
    eq_of_byteLength_eq ⟨ys, htext.symm⟩ ⟨rest, by simp [htext']⟩ (by simp [hoffset])
  rcases List.eq_nil_or_concat xs with hnil | ⟨lead, d, hconcat⟩
  · exact absurd hnil hxs
  · rw [List.concat_eq_append] at hconcat
    rw [hconcat, ← List.append_assoc] at hstart
    obtain rfl : d = c := (List.append_singleton_inj.mp hstart).2
    rw [hconcat, endsBlank_concat]
    exact hc

/-- Nothing is cut from what is empty. -/
theorem cutAt_nil (hbound : ∀ o ∈ offsets, IsBoundary (before ++ []) o) :
    cutAt (byteLength before) offsets [] = [] := by
  have hflat := List.flatten_eq_nil_iff.mp (flatten_cutAt hbound (Or.inl rfl))
  exact List.eq_nil_iff_forall_not_mem.mpr fun segment hmem =>
    ne_nil_of_mem_cutAt hbound hmem (hflat segment hmem)

/-- **Every segment but the last one ends blank**, when every offset but the ends of the text lies
after a blank. -/
theorem isChain_cutAt (hoffsets : ∀ o ∈ offsets,
      o = 0 ∨ o = byteLength (before ++ cs) ∨ Boundary.AfterBlank (before ++ cs) o)
    (hbound : ∀ o ∈ offsets, IsBoundary (before ++ cs) o) :
    (cutAt (byteLength before) offsets cs).IsChain fun segment _ => EndsBlank segment := by
  induction offsets generalizing before cs with
  | nil => exact List.isChain_nil
  | cons offset rest ih =>
      have hrest := fun o ho => hoffsets o (List.mem_cons_of_mem offset ho)
      have hboundRest := fun o ho => hbound o (List.mem_cons_of_mem offset ho)
      rw [cutAt]
      split
      · exact ih hrest hboundRest
      · rename_i hlt
        obtain ⟨xs, ys, rfl, hxs, hoffset, htake, hdrop⟩ :=
          exists_split_at (hbound offset List.mem_cons_self) (by omega)
        have hplace := hoffsets offset List.mem_cons_self
        rw [← List.append_assoc] at hplace hrest hboundRest
        rw [htake, hdrop, ← hoffset]
        refine List.isChain_cons.mpr ⟨fun next hnext => ?_, ih hrest hboundRest⟩
        rcases hplace with hzero | hend | hblank
        · omega
        · -- At the end of the text there is no next segment.
          rw [byteLength_append, hoffset] at hend
          obtain rfl : ys = [] := byteLength_eq_zero_iff.mp (by omega)
          rw [cutAt_nil hboundRest] at hnext
          cases hnext
        · rw [← hoffset] at hblank
          exact endsBlank_of_afterBlank hblank rfl hxs

end Cut

/-! ## Packing keeps the words -/

/-- Without an overlap no piece is begun by the one before. -/
@[simp] theorem seed_zero (piece : List Char) : seed 0 piece = [] := rfl

/-- **Packing keeps the words** when every part but the last one ends blank. -/
theorem flatMap_words_pack (limit : Nat) {piece : List Char} {segments : List (List Char)}
    (h : (piece :: segments).IsChain fun part _ => EndsBlank part) :
    (pack limit 0 piece segments).flatMap words = words (piece ++ segments.flatten) := by
  induction segments generalizing piece with
  | nil => rw [pack, List.flatMap_singleton, List.flatten_nil, List.append_nil]
  | cons segment rest ih =>
      obtain ⟨hpiece, hrest⟩ := List.isChain_cons_cons.mp h
      rw [pack]
      split
      · -- The piece is closed behind a blank.
        rw [List.flatMap_cons, seed_zero, List.nil_append, ih hrest, List.flatten_cons,
          hpiece.words_append]
      · rw [List.flatten_cons, ← List.append_assoc]
        obtain ⟨hsegment, hchain⟩ := List.isChain_cons.mp hrest
        exact ih (List.isChain_cons.mpr
          ⟨fun next hnext => hpiece.append (hsegment next hnext), hchain⟩)

/-- **The words of the pieces** of a text are those of the text, when the pieces share nothing. -/
theorem flatMap_words_pieces {maxTokens : Nat} {cs : List Char} {packed : List (List Char)}
    (h : pieces ⟨maxTokens, 0⟩ cs = .ok packed) : packed.flatMap words = words cs := by
  obtain ⟨offsets, hfind, rfl⟩ := pieces_eq_ok_iff.mp h
  have hbound : ∀ o ∈ offsets, IsBoundary ([] ++ cs) o := fun o ho =>
    Boundary.isBoundary_of_mem_find hfind ho
  have hoffsets : ∀ o ∈ offsets,
      o = 0 ∨ o = byteLength ([] ++ cs) ∨ Boundary.AfterBlank ([] ++ cs) o := fun o ho =>
    ((Boundary.mem_find hfind).mp ho).imp_right
      (Or.imp_right Boundary.afterBlank_of_mem_candidates)
  have hend : byteLength ([] ++ cs) ∈ offsets :=
    (Boundary.mem_find hfind).mpr (Or.inr (Or.inl rfl))
  have hchain : ([] :: cutAt 0 offsets cs).IsChain fun part _ => EndsBlank part :=
    List.isChain_cons.mpr ⟨fun _ _ => endsBlank_nil, isChain_cutAt hoffsets hbound⟩
  have hflat : (cutAt 0 offsets cs).flatten = cs := flatten_cutAt hbound (Or.inr hend)
  calc (pack (Token.toBytes maxTokens) (Token.toBytes 0) [] (cutAt 0 offsets cs)).flatMap words
      = words ([] ++ (cutAt 0 offsets cs).flatten) := flatMap_words_pack _ hchain
    _ = words cs := by rw [List.nil_append, hflat]

end Segment

namespace Chunk

/-- Blank pieces have no words. -/
theorem flatMap_words_filter (pieces : List (List Char)) :
    (pieces.filter fun piece => !isBlankText piece).flatMap words = pieces.flatMap words := by
  induction pieces with
  | nil => rfl
  | cons piece rest ih =>
      cases hblank : isBlankText piece with
      | true => simp [hblank, words_of_isBlankText hblank, ih]
      | false => simp [hblank, ih]

/-- The words of the chunks of pieces are those of the pieces. -/
theorem flatMap_words_ofPieces (pieces : List (List Char)) :
    ((ofPieces pieces).flatMap fun chunk => words chunk.text.toList) = pieces.flatMap words :=
  calc ((ofPieces pieces).flatMap fun chunk => words chunk.text.toList)
      = ((ofPieces pieces).map (·.text.toList)).flatMap words := by rw [List.flatMap_map]
    _ = ((pieces.filter fun piece => !isBlankText piece).map trim).flatMap words := by
        rw [map_text_ofPieces]
    _ = (pieces.filter fun piece => !isBlankText piece).flatMap words := by
        simp only [List.flatMap_map, words_trim]
    _ = pieces.flatMap words := flatMap_words_filter pieces

/-- **The chunks of a text that share nothing have its words**, each once and in order, however many
tokens they may have. -/
theorem flatMap_words_chunks {maxTokens : Nat} {text : String} {chunks : List Chunk}
    (h : Segment.chunks ⟨maxTokens, 0⟩ text = .ok chunks) :
    (chunks.flatMap fun chunk => words chunk.text.toList) = words text.toList := by
  obtain ⟨packed, hpieces, rfl⟩ := exists_pieces_of_segment_chunks h
  rw [flatMap_words_ofPieces, Segment.flatMap_words_pieces hpieces]

/-- Three sentences, one of which has a paragraph break inside and ends with a wide blank. -/
theorem flatMap_words_chunks_of_sentences :
    Segment.chunks ⟨5, 0⟩ "Cells divide. Plants\n\n grow.\u2003Roots sink." =
        .ok [⟨"Cells divide.", 0⟩, ⟨"Plants\n\n grow.", 1⟩, ⟨"Roots sink.", 2⟩] ∧
      ([⟨"Cells divide.", 0⟩, ⟨"Plants\n\n grow.", 1⟩, ⟨"Roots sink.", 2⟩] : List Chunk).flatMap
          (fun chunk => words chunk.text.toList) =
        words "Cells divide. Plants\n\n grow.\u2003Roots sink.".toList := by
  have h : Segment.chunks ⟨5, 0⟩ "Cells divide. Plants\n\n grow.\u2003Roots sink." =
      .ok [⟨"Cells divide.", 0⟩, ⟨"Plants\n\n grow.", 1⟩, ⟨"Roots sink.", 2⟩] := by
    decide +kernel
  exact ⟨h, flatMap_words_chunks h⟩

end Chunk

end Courseware
