import Mathlib.Data.List.Chain
import Courseware.Chunk.Basic
import Courseware.Proofs.Text.Cut
import Courseware.Proofs.Text.Trim

/-! # Spans that cover a text

Pieces of a text are compared with the text by their offsets. A **span** is a pair of offsets, and
spans **cover** a text (`Covers`) when they run from its start to its end, each beginning after the
one before, with no gap between the two and no more than a given overlap. What spans cover is not
lost: the chunks made of their slices hold every character that is not blank
(`exists_containsAt`). -/

namespace Courseware

open Text

namespace Text

/-- **A part of a text holds an occurrence** of a character: the one between `before` and
`after`. -/
def ContainsAt (part before : List Char) (c : Char) (after : List Char) : Prop :=
  ∃ x p q y, before = x ++ p ∧ after = q ++ y ∧ part = p ++ c :: q

/-- A part with an occurrence of a character has the character. -/
theorem ContainsAt.mem {part before after : List Char} {c : Char}
    (h : ContainsAt part before c after) : c ∈ part := by
  obtain ⟨x, p, q, y, -, -, rfl⟩ := h
  simp

/-- An occurrence stays when something without the character is left out at the start. -/
theorem ContainsAt.of_append_left {lead part before after : List Char} {c : Char}
    (h : ContainsAt (lead ++ part) before c after) (hc : c ∉ lead) :
    ContainsAt part before c after := by
  obtain ⟨x, p, q, y, rfl, rfl, hpart⟩ := h
  -- What is left out ends before the character, or it would have the character.
  rcases List.append_eq_append_iff.mp hpart with ⟨r, rfl, rfl⟩ | ⟨r, rfl, hr⟩
  · exact ⟨x ++ lead, r, q, y, by simp, rfl, rfl⟩
  · cases r with
    | nil => exact ⟨x ++ p, [], q, y, by simp, rfl, by simpa using hr.symm⟩
    | cons d r =>
        have hd : c = d := (List.cons.inj hr).1
        simp [hd] at hc

/-- An occurrence stays when something without the character is left out at the end. -/
theorem ContainsAt.of_append_right {part trail before after : List Char} {c : Char}
    (h : ContainsAt (part ++ trail) before c after) (hc : c ∉ trail) :
    ContainsAt part before c after := by
  obtain ⟨x, p, q, y, rfl, rfl, hpart⟩ := h
  rcases List.append_eq_append_iff.mp hpart with ⟨r, hp, rfl⟩ | ⟨r, rfl, hr⟩
  · simp at hc
  · cases r with
    | nil =>
        rw [List.nil_append] at hr
        simp [← hr] at hc
    | cons d r =>
        rw [List.cons_append, List.cons.injEq] at hr
        exact ⟨x, p, r, trail ++ y, rfl, by simp [hr.2], by rw [hr.1]⟩

/-- Trimming keeps every character that is not blank. -/
theorem ContainsAt.trim {part before after : List Char} {c : Char}
    (h : ContainsAt part before c after) (hc : isBlank c = false) :
    ContainsAt (trim part) before c after := by
  obtain ⟨lead, trail, hpart, hlead, htrail⟩ := exists_eq_append_trim part
  have hmem : ∀ {bs}, isBlankText bs = true → c ∉ bs := fun hbs hcb => by
    rw [isBlankText_iff.mp hbs c hcb] at hc
    cases hc
  rw [hpart] at h
  exact (h.of_append_right (hmem htrail)).of_append_left (hmem hlead)

end Text

/-- **A span of a text**: a pair of offsets. -/
structure Span where
  /-- Where the span begins. -/
  start : Nat
  /-- Where it ends. -/
  stop : Nat
  deriving DecidableEq, Repr

namespace Span

/-- The slice of a text that a span stands for. -/
def text (cs : List Char) (span : Span) : List Char := slice cs span.start span.stop

/-- A span that splits no character and is not empty. -/
structure Proper (cs : List Char) (span : Span) : Prop where
  /-- It begins between characters. -/
  isBoundary_start : IsBoundary cs span.start
  /-- It ends between characters. -/
  isBoundary_stop : IsBoundary cs span.stop
  /-- It has a character. -/
  start_lt_stop : span.start < span.stop

/-- A span begins after the one before but not behind its end, goes at least as far, and repeats at
most `overlap` bytes of it. -/
structure Follows (overlap : Nat) (span next : Span) : Prop where
  /-- It begins later. -/
  start_lt : span.start < next.start
  /-- There is no gap. -/
  start_le_stop : next.start ≤ span.stop
  /-- It goes as far. -/
  stop_le : span.stop ≤ next.stop
  /-- It repeats little. -/
  repeated_le : span.stop - next.start ≤ overlap

/-- The span of the middle part of a text is proper when that part is not empty. -/
theorem proper_append (xs : List Char) {ys : List Char} (zs : List Char) (hys : ys ≠ []) :
    Proper (xs ++ ys ++ zs) ⟨byteLength xs, byteLength xs + byteLength ys⟩ where
  isBoundary_start := by
    rw [List.append_assoc]
    exact isBoundary_append xs (ys ++ zs)
  isBoundary_stop := by
    rw [← byteLength_append]
    exact isBoundary_append (xs ++ ys) zs
  start_lt_stop := by
    have hpos := byteLength_pos_iff.mpr hys
    simp only
    omega

/-- The slice of that span is the part. -/
theorem text_append (xs ys zs : List Char) :
    text (xs ++ ys ++ zs) ⟨byteLength xs, byteLength xs + byteLength ys⟩ = ys :=
  slice_append xs ys zs

/-- The parts into which a proper span divides a text. -/
theorem Proper.exists_split {cs : List Char} {span : Span} (h : span.Proper cs) :
    ∃ xs zs, cs = xs ++ span.text cs ++ zs ∧ byteLength xs = span.start ∧
      byteLength xs + byteLength (span.text cs) = span.stop := by
  obtain ⟨xs, ⟨rest, rfl⟩, hxs⟩ := h.isBoundary_start
  have hle : byteLength xs ≤ span.stop := by
    rw [hxs]
    exact h.start_lt_stop.le
  obtain ⟨ys, zs, rfl, hstop⟩ := h.isBoundary_stop.exists_split hle
  have htext : span.text (xs ++ (ys ++ zs)) = ys := by
    rw [text, ← hxs, hstop, ← List.append_assoc, slice_append]
  refine ⟨xs, zs, ?_, hxs, ?_⟩
  · rw [htext, List.append_assoc]
  · rw [htext, hstop]

/-- A span holds every occurrence that lies between its offsets. -/
theorem Proper.containsAt {before after : List Char} {c : Char} {span : Span}
    (h : span.Proper (before ++ c :: after)) (hstart : span.start ≤ byteLength before)
    (hstop : byteLength before < span.stop) :
    ContainsAt (span.text (before ++ c :: after)) before c after := by
  obtain ⟨xs, zs, hcs, hxs, hys⟩ := h.exists_split
  generalize span.text (before ++ c :: after) = ys at hcs hys ⊢
  have hbefore : xs <+: before :=
    prefix_of_byteLength_le ⟨ys ++ zs, by rw [hcs, List.append_assoc]⟩ ⟨c :: after, rfl⟩
      (by omega)
  obtain ⟨p, rfl⟩ := hbefore
  rw [List.append_assoc, List.append_assoc] at hcs
  have hrest := List.append_cancel_left hcs
  rw [byteLength_append] at hstop
  rcases List.append_eq_append_iff.mp hrest with ⟨r, rfl, hr⟩ | ⟨r, rfl, -⟩
  · cases r with
    | nil =>
        simp only [List.append_nil] at hys
        omega
    | cons d r =>
        rw [List.cons_append, List.cons.injEq] at hr
        exact ⟨xs, p, r, zs, rfl, hr.2, by rw [hr.1]⟩
  · rw [byteLength_append] at hstop
    omega

end Span

/-- **Spans that cover a text** from the offset `start` on. -/
structure Covers (overlap : Nat) (cs : List Char) (start : Nat) (spans : List Span) : Prop where
  /-- The first one begins at that offset. -/
  head : spans.head?.map Span.start = some start
  /-- The last one ends with the text. -/
  last : spans.getLast?.map Span.stop = some (byteLength cs)
  /-- Each one splits no character and is not empty. -/
  proper : ∀ span ∈ spans, span.Proper cs
  /-- Each one follows the one before. -/
  chain : spans.IsChain (Span.Follows overlap)

namespace Covers

variable {overlap start : Nat} {cs : List Char} {spans : List Span}

/-- A span to the end of the text covers what it spans. -/
theorem single {span : Span} (h : span.Proper cs) (hstop : span.stop = byteLength cs) :
    Covers overlap cs span.start [span] where
  head := rfl
  last := by simp [hstop]
  proper := by simpa using h
  chain := List.isChain_singleton span

/-- A span before spans that cover the rest of a text. -/
theorem cons {span next : Span} (hspan : span.Proper cs) (hnext : span.Follows overlap next)
    (h : Covers overlap cs next.start (next :: spans)) :
    Covers overlap cs span.start (span :: next :: spans) where
  head := rfl
  last := by simpa using h.last
  proper := by simpa using ⟨hspan, by simpa using h.proper⟩
  chain := List.isChain_cons_cons.mpr ⟨hnext, h.chain⟩

/-- **A piece before spans that cover the rest**: the spans begin behind a part `front` of the
piece, leave at most the overlap of it, and go at least as far. -/
theorem cons_append {before piece front after : List Char} {next : Span}
    (h : Covers overlap (before ++ piece ++ after) (byteLength (before ++ front)) (next :: spans))
    (hfront : front ≠ []) (hpre : front <+: piece)
    (hoverlap : byteLength piece ≤ byteLength front + overlap)
    (hstop : byteLength (before ++ piece) ≤ next.stop) :
    Covers overlap (before ++ piece ++ after) (byteLength before)
      (⟨byteLength before, byteLength before + byteLength piece⟩ :: next :: spans) := by
  have hstart : next.start = byteLength (before ++ front) := by simpa using h.head
  have hpos := byteLength_pos_iff.mpr hfront
  have hle := byteLength_le_of_isPrefix hpre
  have hpiece : piece ≠ [] := byteLength_pos_iff.mp (by omega)
  simp only [byteLength_append] at hstart hstop
  have hfollows : Span.Follows overlap
      ⟨byteLength before, byteLength before + byteLength piece⟩ next := by
    constructor <;> simp only <;> omega
  rw [byteLength_append, ← hstart] at h
  exact h.cons (Span.proper_append before after hpiece) hfollows

/-- Every offset of the text from `start` on lies in a span. -/
theorem exists_mem (h : Covers overlap cs start spans) {n : Nat} (hstart : start ≤ n)
    (hn : n < byteLength cs) : ∃ span ∈ spans, span.start ≤ n ∧ n < span.stop := by
  induction spans generalizing start with
  | nil => simpa using h.head
  | cons span spans ih =>
      have hhead : span.start = start := by simpa using h.head
      rcases Nat.lt_or_ge n span.stop with hlt | hge
      · exact ⟨span, List.mem_cons_self, by omega, hlt⟩
      · -- There is no gap, so the offset lies behind the start of the next span.
        cases spans with
        | nil =>
            have hlast : span.stop = byteLength cs := by simpa using h.last
            omega
        | cons next spans =>
            have hchain := List.isChain_cons_cons.mp h.chain
            have hrest : Covers overlap cs next.start (next :: spans) :=
              ⟨rfl, by simpa using h.last, fun s hs => h.proper s (List.mem_cons_of_mem span hs),
                hchain.2⟩
            have hgap := hchain.1.start_le_stop
            obtain ⟨found, hmem, hfound⟩ := ih hrest (by omega)
            exact ⟨found, List.mem_cons_of_mem span hmem, hfound⟩

/-- **What spans cover is not lost**: some slice holds every occurrence of a character. -/
theorem exists_containsAt {before after : List Char} {c : Char}
    (h : Covers overlap (before ++ c :: after) 0 spans) :
    ∃ span ∈ spans, ContainsAt (span.text (before ++ c :: after)) before c after := by
  have hc := c.utf8Size_pos
  have hlt : byteLength before < byteLength (before ++ c :: after) := by
    rw [byteLength_append, byteLength_cons]
    omega
  obtain ⟨span, hmem, hstart, hstop⟩ := h.exists_mem (Nat.zero_le _) hlt
  exact ⟨span, hmem, (h.proper span hmem).containsAt hstart hstop⟩

end Covers

end Courseware
