import Courseware.Chunk.Segment
import Courseware.Proofs.Chunk.Boundary
import Courseware.Proofs.Chunk.Span
import Courseware.Proofs.Steps

/-! # Packed segments are slices

The segments between the boundaries of a text make up the text (`flatten_cutAt`). Packing them keeps
the running piece a slice that ends where the next segment begins: a seed is an end of the piece
before. So the pieces are the slices of spans that cover the text, and two neighbours share no more
than the overlap (`exists_covers_pieces`). -/

namespace Courseware.Segment

open Text

/-! ## The segments of a text -/

section Cut

variable {before cs : List Char} {offsets : List Nat}

/-- Cutting a text at a later boundary divides what is left of it there. -/
theorem exists_split_at {offset : Nat} (h : IsBoundary (before ++ cs) offset)
    (hlt : byteLength before < offset) :
    ∃ xs ys, cs = xs ++ ys ∧ xs ≠ [] ∧ byteLength (before ++ xs) = offset ∧
      takeBytes (offset - byteLength before) cs = xs ∧
      dropBytes (offset - byteLength before) cs = ys := by
  obtain ⟨xs, ys, rfl, hoffset⟩ := h.exists_split hlt.le
  have hsub : offset - byteLength before = byteLength xs := by omega
  refine ⟨xs, ys, rfl, ?_, ?_, ?_, ?_⟩
  · rintro rfl
    rw [byteLength_nil] at hoffset
    omega
  · rw [byteLength_append, hoffset]
  · rw [hsub, takeBytes_append]
  · rw [hsub, dropBytes_append]

/-- **The segments make up the text**, when its end is one of the boundaries. -/
theorem flatten_cutAt (hbound : ∀ o ∈ offsets, IsBoundary (before ++ cs) o)
    (hend : cs = [] ∨ byteLength (before ++ cs) ∈ offsets) :
    (cutAt (byteLength before) offsets cs).flatten = cs := by
  induction offsets generalizing before cs with
  | nil =>
      rcases hend with rfl | hend
      · rfl
      · cases hend
  | cons offset rest ih =>
      rw [cutAt]
      split
      · -- An offset that is not behind what was cut off divides nothing.
        rename_i hle
        refine ih (fun o ho => hbound o (List.mem_cons_of_mem offset ho)) ?_
        rcases hend with hnil | hend
        · exact Or.inl hnil
        · rcases List.mem_cons.mp hend with heq | hrest
          · rw [byteLength_append] at heq
            exact Or.inl (byteLength_eq_zero_iff.mp (by omega))
          · exact Or.inr hrest
      · rename_i hlt
        obtain ⟨xs, ys, rfl, hxs, hoffset, htake, hdrop⟩ :=
          exists_split_at (hbound offset List.mem_cons_self) (by omega)
        rw [← List.append_assoc] at hbound hend
        have hrest : ys = [] ∨ byteLength (before ++ xs ++ ys) ∈ rest := by
          rcases hend with hnil | hend
          · exact absurd (List.append_eq_nil_iff.mp hnil).1 hxs
          · rcases List.mem_cons.mp hend with heq | hrest
            · rw [byteLength_append, hoffset] at heq
              exact Or.inl (byteLength_eq_zero_iff.mp (by omega))
            · exact Or.inr hrest
        rw [htake, hdrop, List.flatten_cons, ← hoffset]
        rw [ih (fun o ho => hbound o (List.mem_cons_of_mem offset ho)) hrest]

/-- No segment is empty. -/
theorem ne_nil_of_mem_cutAt (hbound : ∀ o ∈ offsets, IsBoundary (before ++ cs) o)
    {segment : List Char} (h : segment ∈ cutAt (byteLength before) offsets cs) :
    segment ≠ [] := by
  induction offsets generalizing before cs with
  | nil => cases h
  | cons offset rest ih =>
      rw [cutAt] at h
      split at h
      · exact ih (fun o ho => hbound o (List.mem_cons_of_mem offset ho)) h
      · rename_i hlt
        obtain ⟨xs, ys, rfl, hxs, hoffset, htake, hdrop⟩ :=
          exists_split_at (hbound offset List.mem_cons_self) (by omega)
        rw [← List.append_assoc] at hbound
        rw [htake, hdrop, ← hoffset] at h
        rcases List.mem_cons.mp h with rfl | h
        · exact hxs
        · exact ih (fun o ho => hbound o (List.mem_cons_of_mem offset ho)) h

end Cut

/-! ## Packing -/

/-- A seed is an end of the piece before, shorter than the piece and no longer than the overlap. -/
theorem exists_append_seed {piece : List Char} (overlap : Nat) (hpiece : piece ≠ []) :
    ∃ front, front ++ seed overlap piece = piece ∧ front ≠ [] ∧
      byteLength (seed overlap piece) ≤ overlap := by
  rw [seed]
  split
  · rename_i hlong
    obtain ⟨front, hfront, hlen, hseed⟩ := exists_append_takeLastBytes overlap piece
    refine ⟨front, hfront, byteLength_pos_iff.mp ?_, hseed⟩
    omega
  · exact ⟨piece, List.append_nil piece, hpiece, Nat.zero_le _⟩

/-- **Packed pieces are slices.** The running piece follows `before`; the spans begin with it. -/
theorem exists_covers_pack (limit overlap : Nat) (before : List Char) {piece : List Char}
    {segments : List (List Char)} (hpiece : piece ≠ []) (hseg : ∀ s ∈ segments, s ≠ []) :
    ∃ first rest, byteLength (before ++ piece) ≤ first.stop ∧
      Covers overlap (before ++ piece ++ segments.flatten) (byteLength before) (first :: rest) ∧
      pack limit overlap piece segments =
        (first :: rest).map (Span.text (before ++ piece ++ segments.flatten)) := by
  induction segments generalizing before piece with
  | nil =>
      have hproper := Span.proper_append before [] hpiece
      refine ⟨_, [], ?_, Covers.single hproper ?_, ?_⟩
      · rw [byteLength_append]
      · simp
      · rw [pack, List.flatten_nil, List.map_singleton, Span.text_append]
  | cons segment segments ih =>
      have hsegment := hseg segment List.mem_cons_self
      have hsegments := fun s hs => hseg s (List.mem_cons_of_mem segment hs)
      rw [pack]
      split
      · -- The piece is closed: its span ends here, and the next one begins with the seed.
        obtain ⟨front, hfront, hne, hseed⟩ := exists_append_seed overlap hpiece
        have htext : before ++ front ++ (seed overlap piece ++ segment) ++ segments.flatten =
            before ++ piece ++ (segment :: segments).flatten := by
          calc _ = before ++ (front ++ seed overlap piece) ++ (segment ++ segments.flatten) := by
                simp only [List.append_assoc]
            _ = _ := by rw [hfront, List.flatten_cons]
        have hnext : seed overlap piece ++ segment ≠ [] := by simp [hsegment]
        obtain ⟨next, rest, hstop, hcovers, hpack⟩ := ih (before ++ front) hnext hsegments
        rw [htext] at hcovers hpack
        have hpre : front <+: piece := ⟨seed overlap piece, hfront⟩
        have hlen := congrArg byteLength hfront
        simp only [byteLength_append] at hstop hlen
        refine ⟨_, next :: rest, ?_, hcovers.cons_append hne hpre (by omega) ?_, ?_⟩
        · rw [byteLength_append]
        · rw [byteLength_append]
          omega
        · rw [hpack, List.map_cons (l := next :: rest), Span.text_append]
      · -- The segment joins the running piece, whose span goes on.
        have htext : before ++ (piece ++ segment) ++ segments.flatten =
            before ++ piece ++ (segment :: segments).flatten := by
          rw [List.flatten_cons]
          simp only [List.append_assoc]
        have hjoined : piece ++ segment ≠ [] := by simp [hpiece]
        obtain ⟨first, rest, hstop, hcovers, hpack⟩ := ih before hjoined hsegments
        rw [htext] at hcovers hpack
        refine ⟨first, rest, ?_, hcovers, hpack⟩
        simp only [byteLength_append] at hstop ⊢
        omega

/-- **The pieces of a text** are packed from the segments between its boundaries, if it has any. -/
theorem pieces_eq_ok_iff {budget : ChunkBudget} {cs : List Char} {packed : List (List Char)} :
    pieces budget cs = .ok packed ↔ ∃ offsets, Boundary.find cs = .ok offsets ∧
      pack (Token.toBytes budget.maxTokens) (Token.toBytes budget.overlapTokens) []
        (cutAt 0 offsets cs) = packed :=
  map_eq_ok_iff

/-- **The pieces of a text** are the slices of spans that cover it. -/
theorem exists_covers_pieces {budget : ChunkBudget} {cs : List Char} {packed : List (List Char)}
    (h : pieces budget cs = .ok packed) (hcs : cs ≠ []) :
    ∃ spans, Covers (Token.toBytes budget.overlapTokens) cs 0 spans ∧
      packed = spans.map (Span.text cs) := by
  obtain ⟨offsets, hfind, rfl⟩ := pieces_eq_ok_iff.mp h
  have hbound : ∀ o ∈ offsets, IsBoundary ([] ++ cs) o := fun o ho =>
    Boundary.isBoundary_of_mem_find hfind ho
  have hend : byteLength ([] ++ cs) ∈ offsets :=
    (Boundary.mem_find hfind).mpr (Or.inr (Or.inl rfl))
  have hflat : (cutAt 0 offsets cs).flatten = cs := flatten_cutAt hbound (Or.inr hend)
  have hne : ∀ s ∈ cutAt 0 offsets cs, s ≠ [] := fun s hs => ne_nil_of_mem_cutAt hbound hs
  cases hsegments : cutAt 0 offsets cs with
  | nil =>
      rw [hsegments, List.flatten_nil] at hflat
      exact absurd hflat.symm hcs
  | cons segment segments =>
      rw [hsegments] at hflat hne
      obtain ⟨first, rest, -, hcovers, hpack⟩ :=
        exists_covers_pack (Token.toBytes budget.maxTokens) (Token.toBytes budget.overlapTokens)
          [] (hne segment List.mem_cons_self)
          (fun s hs => hne s (List.mem_cons_of_mem segment hs))
      rw [List.nil_append, ← List.flatten_cons, hflat] at hcovers hpack
      refine ⟨first :: rest, hcovers, ?_⟩
      rw [← hpack, pack, if_neg (fun hclosed => hclosed.1 rfl), List.nil_append]

end Courseware.Segment
