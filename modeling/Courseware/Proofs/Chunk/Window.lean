import Courseware.Chunk.Window
import Courseware.Proofs.Chunk.Span

/-! # Windows cut slices

A window of at least four bytes covers a character, and the piece it cuts is a start of what is left
of the text. The next window may begin before the end of that piece, and it may end early before a
space; but it never ends before the piece did (`byteLength_first_le`): the space would have lain
behind four fifths of the window before as well. So the pieces are the slices of spans that cover
the text (`exists_covers_pieces`). -/

namespace Courseware.Window

open Text

variable {width overlap : Nat} {cs : List Char}

/-- The part before the last space of a part. -/
abbrev beforeSpace (covered : List Char) : List Char := beforeLast (· == ' ') covered

/-! ## The piece at the start of a text -/

/-- A window of four bytes covers what fits it. -/
theorem cover_eq_takeBytes (hw : 4 ≤ width) (hcs : cs ≠ []) :
    cover width cs = takeBytes width cs := by
  rw [cover]
  split
  · rename_i hnil
    exact absurd hnil (takeBytes_ne_nil hw hcs)
  · rfl

/-- What a window covers is cut before its last space or not at all. -/
theorem snap_cases (covered : List Char) :
    (snap covered = covered ∧ 5 * byteLength (beforeSpace covered) ≤ 4 * byteLength covered) ∨
      (snap covered = beforeSpace covered ∧
        4 * byteLength covered < 5 * byteLength (beforeSpace covered)) := by
  simp only [snap]
  split
  · exact Or.inr ⟨rfl, by assumption⟩
  · rename_i h
    exact Or.inl ⟨rfl, Nat.le_of_not_lt h⟩

/-- **The piece at the start of a text**: all that is left, or what the window covers when the last
space of that lies early, or the part before that space. -/
theorem first_cases (hw : 4 ≤ width) (hcs : cs ≠ []) :
    (first width cs = takeBytes width cs ∧ takeBytes width cs = cs) ∨
      (first width cs = takeBytes width cs ∧
        5 * byteLength (beforeSpace (takeBytes width cs)) ≤ 4 * byteLength (takeBytes width cs)) ∨
      (first width cs = beforeSpace (takeBytes width cs) ∧
        4 * byteLength (takeBytes width cs) <
          5 * byteLength (beforeSpace (takeBytes width cs)) ∧ takeBytes width cs ≠ cs) := by
  simp only [first, cover_eq_takeBytes hw hcs]
  split
  · rename_i hshort
    rcases snap_cases (takeBytes width cs) with h | ⟨h, hlate⟩
    · exact Or.inr (Or.inl h)
    · exact Or.inr (Or.inr ⟨h, hlate, fun heq => absurd hshort (by simp [heq])⟩)
  · rename_i h
    exact Or.inl ⟨rfl, (takeBytes_isPrefix width cs).eq_of_length_le (Nat.le_of_not_lt h)⟩

/-- The piece is a start of what the window covers. -/
theorem first_isPrefix_takeBytes (hw : 4 ≤ width) (hcs : cs ≠ []) :
    first width cs <+: takeBytes width cs := by
  rcases first_cases hw hcs with ⟨h, -⟩ | ⟨h, -⟩ | ⟨h, -⟩
  · rw [h]
  · rw [h]
  · rw [h]
    exact beforeLast_isPrefix _ _

/-! ## The next window -/

/-- What the window covers does not reach beyond what the next one covers. -/
theorem takeBytes_append_isPrefix {front rest : List Char}
    (h : byteLength front ≤ byteLength (takeBytes width (front ++ rest))) :
    ∃ more, takeBytes width (front ++ rest) = front ++ more ∧ more <+: takeBytes width rest := by
  have hcut := takeBytes_isPrefix width (front ++ rest)
  obtain ⟨more, hmore⟩ := prefix_of_byteLength_le (List.prefix_append front rest) hcut h
  have hsize := byteLength_takeBytes_le width (front ++ rest)
  rw [← hmore, byteLength_append] at hsize
  rw [← hmore] at hcut
  refine ⟨more, hmore.symm, prefix_takeBytes ?_ (by omega)⟩
  exact (List.prefix_append_right_inj front).mp hcut

/-- The last space of what the next window covers is no later than the last space of this one, when
it lies in what this one covers. -/
theorem byteLength_append_le_beforeSpace (front : List Char) {more covered : List Char}
    (hmore : more <+: covered) (hne : beforeSpace covered ≠ [])
    (hlt : byteLength (beforeSpace covered) < byteLength more) :
    byteLength front + byteLength (beforeSpace covered) ≤
      byteLength (beforeSpace (front ++ more)) := by
  rcases beforeLast_cases (· == ' ') covered with ⟨hnil, -⟩ | ⟨c, after, hcovered, hc, -⟩
  · exact absurd hnil hne
  · have hspace : byteLength (beforeSpace covered ++ [c]) = byteLength (beforeSpace covered) + 1 := by
      rw [beq_iff_eq.mp hc, byteLength_append]
      rfl
    have hstart : beforeSpace covered ++ [c] <+: covered := ⟨after, by simpa using hcovered.symm⟩
    obtain ⟨tail, htail⟩ := prefix_of_byteLength_le hstart hmore (by omega)
    have htext : front ++ more = front ++ beforeSpace covered ++ c :: tail := by simp [← htail]
    rw [htext, ← byteLength_append]
    exact byteLength_le_of_isPrefix (prefix_beforeLast _ tail hc)

/-- The last space of what this window covers is no later than the last space of the next one. -/
theorem byteLength_beforeSpace_append_le {front more covered : List Char}
    (hmore : more <+: covered)
    (hfront : byteLength front ≤ byteLength (beforeSpace (front ++ more))) :
    byteLength (beforeSpace (front ++ more)) ≤
      byteLength front + byteLength (beforeSpace covered) := by
  rcases beforeLast_cases (· == ' ') (front ++ more) with ⟨hnil, -⟩ | ⟨c, after, htext, hc, -⟩
  · rw [beforeSpace, hnil]
    exact Nat.zero_le _
  · obtain ⟨part, hpart⟩ := prefix_of_byteLength_le (List.prefix_append front more)
      (beforeLast_isPrefix _ _) hfront
    obtain ⟨tail, rfl⟩ := hmore
    rw [← hpart, List.append_assoc] at htext
    have hle : byteLength part ≤ byteLength (beforeSpace (part ++ c :: (after ++ tail))) :=
      byteLength_le_of_isPrefix (prefix_beforeLast part (after ++ tail) hc)
    rw [beforeSpace, ← hpart, byteLength_append, List.append_cancel_left htext, List.append_assoc,
      List.cons_append]
    omega

/-- **No window ends before the one before**, when the two begin at different places and leave no
gap between them. -/
theorem byteLength_first_le (hw : 4 ≤ width) {front rest : List Char} (hfront : front ≠ [])
    (hrest : rest ≠ []) (h : byteLength front ≤ byteLength (first width (front ++ rest))) :
    byteLength (first width (front ++ rest)) ≤
      byteLength front + byteLength (first width rest) := by
  have hcs : front ++ rest ≠ [] := by simp [hrest]
  have hfirst := byteLength_le_of_isPrefix (first_isPrefix_takeBytes hw hcs)
  obtain ⟨more, hcover, hmore⟩ := takeBytes_append_isPrefix (Nat.le_trans h hfirst)
  have hnext := byteLength_le_of_isPrefix hmore
  have hpos := byteLength_pos_iff.mpr hfront
  rw [hcover, byteLength_append] at hfirst
  rcases first_cases hw hrest with ⟨hn, -⟩ | ⟨hn, -⟩ | ⟨hn, hlate, hpart⟩ <;> rw [hn]
  · omega
  · omega
  · -- The next window ends before a space. If that is before the end of this piece, this window
    -- covers the space too, and had to end before it or a later one.
    by_contra hlt
    have hne : beforeSpace (takeBytes width rest) ≠ [] := byteLength_pos_iff.mp (by omega)
    have hspace := byteLength_append_le_beforeSpace front hmore hne (by omega)
    rcases first_cases hw hcs with ⟨-, hall⟩ | ⟨-, hearly⟩ | ⟨ht, -, -⟩
    · rw [hcover] at hall
      rw [List.append_cancel_left hall] at hmore
      exact hpart ((takeBytes_isPrefix width rest).eq_of_length_le hmore.length_le)
    · rw [hcover, byteLength_append] at hearly
      omega
    · rw [ht, hcover] at h hlt
      have hle := byteLength_beforeSpace_append_le hmore h
      omega

/-! ## The spans of the pieces -/

/-- **The spans of the pieces** that a window of `width` bytes cuts from what is left of a text behind
the offset `start`. -/
def spansFrom (width overlap start : Nat) (cs : List Char) : List Span :=
  if _hcs : cs = [] then []
  else
    let piece := first width cs
    let step := advance overlap piece
    let span : Span := ⟨start, start + byteLength piece⟩
    if piece.length < cs.length then
      span :: spansFrom width overlap (start + byteLength (takeBytesUp step cs))
        (dropBytesUp step cs)
    else [span]
termination_by cs.length
decreasing_by exact length_dropBytesUp_lt (advance_pos (byteLength_first_pos _hcs)) _hcs

/-- The spans of the pieces that a window cuts from a text. -/
def spans (width overlap : Nat) (cs : List Char) : List Span := spansFrom width overlap 0 cs

/-- A piece that does not reach the end of the text is followed by the next window. -/
theorem pieces_of_lt (hcs : cs ≠ []) (h : (first width cs).length < cs.length) :
    pieces width overlap cs = first width cs ::
      pieces width overlap (dropBytesUp (advance overlap (first width cs)) cs) := by
  rw [pieces, dif_neg hcs]
  simp only [if_pos h]

/-- A piece that reaches the end of the text is all of it. -/
theorem pieces_of_not_lt (hcs : cs ≠ []) (h : ¬(first width cs).length < cs.length) :
    pieces width overlap cs = [first width cs] := by
  rw [pieces, dif_neg hcs]
  simp only [if_neg h]

/-- The span of a piece that does not reach the end of the text is followed by the next one. -/
theorem spansFrom_of_lt {start : Nat} (hcs : cs ≠ []) (h : (first width cs).length < cs.length) :
    spansFrom width overlap start cs = ⟨start, start + byteLength (first width cs)⟩ ::
      spansFrom width overlap
        (start + byteLength (takeBytesUp (advance overlap (first width cs)) cs))
        (dropBytesUp (advance overlap (first width cs)) cs) := by
  rw [spansFrom, dif_neg hcs]
  simp only [if_pos h]

/-- The span of a piece that reaches the end of the text is the last one. -/
theorem spansFrom_of_not_lt {start : Nat} (hcs : cs ≠ [])
    (h : ¬(first width cs).length < cs.length) :
    spansFrom width overlap start cs = [⟨start, start + byteLength (first width cs)⟩] := by
  rw [spansFrom, dif_neg hcs]
  simp only [if_neg h]

/-- **The next window** begins behind a start of the piece, but no more than the overlap before the
end of the piece. -/
theorem takeBytesUp_advance (overlap : Nat) {piece : List Char} (hpiece : piece <+: cs)
    (hne : piece ≠ []) :
    takeBytesUp (advance overlap piece) cs ≠ [] ∧
      takeBytesUp (advance overlap piece) cs <+: piece ∧
      byteLength piece ≤ byteLength (takeBytesUp (advance overlap piece) cs) + overlap := by
  have hpos : 0 < advance overlap piece := advance_pos (byteLength_pos_iff.mpr hne)
  have hle : advance overlap piece ≤ byteLength piece := by
    rw [advance]
    split <;> omega
  have hoverlap : byteLength piece ≤ advance overlap piece + overlap := by
    rw [advance]
    split <;> omega
  have hreach := le_byteLength_takeBytesUp (hle.trans (byteLength_le_of_isPrefix hpiece))
  refine ⟨?_, takeBytesUp_isPrefix_of_le hpiece hle, ?_⟩
  · exact byteLength_pos_iff.mp (Nat.lt_of_lt_of_le hpos hreach)
  · omega

/-- **Pieces are slices.** The windows begin behind `before`, and their spans cover the rest. -/
theorem covers_spansFrom (overlap : Nat) (hw : 4 ≤ width) (before : List Char) (hcs : cs ≠ []) :
    (∃ rest, spansFrom width overlap (byteLength before) cs =
        ⟨byteLength before, byteLength before + byteLength (first width cs)⟩ :: rest) ∧
      Covers overlap (before ++ cs) (byteLength before)
        (spansFrom width overlap (byteLength before) cs) ∧
      pieces width overlap cs =
        (spansFrom width overlap (byteLength before) cs).map (Span.text (before ++ cs)) := by
  induction cs using pieces.induct width overlap generalizing before with
  | case1 => exact absurd rfl hcs
  | case2 cs _ _ hlt ih =>
      -- The piece is followed by the pieces of what is left behind the next window's start.
      have hshort : (first width cs).length < cs.length := hlt
      have hfirst := (first_isPrefix_takeBytes hw hcs).trans (takeBytes_isPrefix width cs)
      have hne : first width cs ≠ [] := byteLength_pos_iff.mp (byteLength_first_pos hcs)
      obtain ⟨hfront, hpre, hoverlap⟩ := takeBytesUp_advance overlap hfirst hne
      have hsplit : cs = takeBytesUp (advance overlap (first width cs)) cs ++
          dropBytesUp (advance overlap (first width cs)) cs :=
        (takeBytesUp_append_dropBytesUp _ _).symm
      obtain ⟨after, hafter⟩ := hfirst
      rw [pieces_of_lt hcs hshort, spansFrom_of_lt hcs hshort]
      generalize takeBytesUp (advance overlap (first width cs)) cs = front
        at hfront hpre hoverlap hsplit ⊢
      generalize dropBytesUp (advance overlap (first width cs)) cs = rest at hsplit ih ⊢
      have hrest : rest ≠ [] := by
        rintro rfl
        have hlength := hpre.length_le
        rw [List.append_nil] at hsplit
        rw [← hsplit] at hlength
        omega
      obtain ⟨⟨others, hothers⟩, hcovers, hpieces⟩ := ih (before ++ front) hrest
      have hmono : byteLength (first width cs) ≤ byteLength front + byteLength (first width rest) :=
        hsplit ▸ byteLength_first_le hw hfront hrest (hsplit ▸ byteLength_le_of_isPrefix hpre)
      have htext : before ++ front ++ rest = before ++ first width cs ++ after := by
        rw [List.append_assoc, ← hsplit, List.append_assoc, hafter]
      rw [htext, hothers] at hcovers hpieces
      have hstart : byteLength before + byteLength front = byteLength (before ++ front) :=
        (byteLength_append before front).symm
      rw [hstart, hothers, ← hafter, ← List.append_assoc, hafter]
      refine ⟨⟨_, rfl⟩, hcovers.cons_append hfront hpre hoverlap ?_, ?_⟩
      · simp only [byteLength_append]
        omega
      · rw [hpieces, List.map_cons (l := _ :: others), Span.text_append]
  | case3 cs _ _ hall =>
      -- The window reaches the end of the text.
      have hpre := (first_isPrefix_takeBytes hw hcs).trans (takeBytes_isPrefix width cs)
      have hfirst : first width cs = cs := hpre.eq_of_length_le (Nat.le_of_not_lt hall)
      have hproper := Span.proper_append before [] hcs
      have htext := Span.text_append before cs []
      rw [List.append_nil] at hproper htext
      rw [pieces_of_not_lt hcs hall, spansFrom_of_not_lt hcs hall, hfirst]
      refine ⟨⟨[], rfl⟩, Covers.single hproper ?_, ?_⟩
      · rw [byteLength_append]
      · rw [List.map_singleton, htext]

/-- The pieces of a text are the slices of their spans. -/
theorem pieces_eq_map_spans (overlap : Nat) (hw : 4 ≤ width) (cs : List Char) :
    pieces width overlap cs = (spans width overlap cs).map (Span.text cs) := by
  by_cases hcs : cs = []
  · rw [hcs, spans, pieces, spansFrom]
    rfl
  · exact (covers_spansFrom overlap hw [] hcs).2.2

/-- **The pieces of a text** are the slices of spans that cover it. -/
theorem exists_covers_pieces (overlap : Nat) (hw : 4 ≤ width) (hcs : cs ≠ []) :
    ∃ spans, Covers overlap cs 0 spans ∧ pieces width overlap cs = spans.map (Span.text cs) :=
  ⟨spans width overlap cs, (covers_spansFrom overlap hw [] hcs).2.1,
    pieces_eq_map_spans overlap hw cs⟩

end Courseware.Window
