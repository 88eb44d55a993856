import Courseware.Proofs.Chunk.Segment
import Courseware.Proofs.Chunk.Window
import Courseware.Proofs.Text.Offset

/-! # Pieces by their offsets

The pieces of a text are found here by offsets into its bytes: each segment is the slice between two
boundaries, and each window is a slice that ends where the searches for boundaries and for its last
space have come. No slice splits a character, so that packing the segments comes to its end
(`packAt?_eq`) and so do the windows (`exists_run`), with the pieces of the text. -/

namespace Courseware

open Text

/-! ## Packed segments -/

namespace Segment

/-- What the piece after `piece` begins with, as a slice of it. -/
def seedAt? (overlap : Nat) (piece : List Char) : Option (List Char) :=
  if 0 < overlap ∧ overlap < byteLength piece then tail? overlap piece else some []

/-- The pieces packed from the slices between boundaries, when the running piece is `piece` and the
text has been read up to `last`. -/
def packAt? (limit overlap : Nat) (cs : List Char) :
    List Char → Nat → List Nat → Option (List (List Char))
  | piece, _, [] => some [piece]
  | piece, last, offset :: rest =>
    if offset ≤ last then packAt? limit overlap cs piece last rest
    else do
      let segment ← slice? cs last offset
      if piece ≠ [] ∧ limit < byteLength piece + byteLength segment then
        let seed ← seedAt? overlap piece
        let packed ← packAt? limit overlap cs (seed ++ segment) offset rest
        some (piece :: packed)
      else packAt? limit overlap cs (piece ++ segment) offset rest

/-- The seed is a slice. -/
theorem seedAt?_eq (overlap : Nat) (piece : List Char) :
    seedAt? overlap piece = some (seed overlap piece) := by
  rw [seedAt?, seed, tail?_eq]
  split <;> rfl

/-- **Packing by offsets** comes to its end with the packed pieces. -/
theorem packAt?_eq {limit overlap : Nat} {offsets : List Nat} (before cs piece : List Char)
    (hbound : ∀ o ∈ offsets, IsBoundary (before ++ cs) o) :
    packAt? limit overlap (before ++ cs) piece (byteLength before) offsets =
      some (pack limit overlap piece (cutAt (byteLength before) offsets cs)) := by
  induction offsets generalizing before cs piece with
  | nil => rfl
  | cons offset rest ih =>
      rw [packAt?, cutAt]
      split
      · exact ih before cs piece fun o ho => hbound o (List.mem_cons_of_mem offset ho)
      · rename_i hlt
        -- The segment is what stands between the two boundaries.
        obtain ⟨xs, ys, rfl, -, rfl, htake, hdrop⟩ :=
          exists_split_at (hbound offset List.mem_cons_self) (by omega)
        rw [← List.append_assoc] at hbound
        have hsegment : slice? (before ++ (xs ++ ys)) (byteLength before)
            (byteLength (before ++ xs)) = some xs :=
          slice?_eq_some (List.append_assoc before xs ys).symm rfl (byteLength_append before xs)
        have hrest := fun next => ih (before ++ xs) ys next fun o ho =>
          hbound o (List.mem_cons_of_mem _ ho)
        rw [hsegment, htake, hdrop, pack, ← List.append_assoc, seedAt?_eq, Option.bind_eq_bind,
          Option.bind_some]
        split
        · simp only [Option.bind_eq_bind, Option.bind_some, hrest]
        · exact hrest _

/-- The pieces of a text by its boundaries. -/
theorem map_packAt?_find (budget : ChunkBudget) (cs : List Char) :
    (Boundary.find cs).map (packAt? (Token.toBytes budget.maxTokens)
        (Token.toBytes budget.overlapTokens) cs [] 0) = (pieces budget cs).map some := by
  rw [pieces]
  cases hfind : Boundary.find cs with
  | error e => rfl
  | ok offsets =>
      have hbound : ∀ o ∈ offsets, IsBoundary ([] ++ cs) o := fun o ho =>
        Boundary.isBoundary_of_mem_find hfind ho
      exact congrArg Except.ok (packAt?_eq [] cs [] hbound)

end Segment

/-! ## Windows -/

namespace Window

/-- Where a window that begins at `pos` and aims at `target` ends at first: at the last boundary
that is not behind its target, or behind one character. -/
def reach? (cs : List Char) (pos target : Nat) : Option Nat := do
  let reach ← floorFound? cs target
  if reach ≤ pos then ceilFound? cs (pos + 1) else some reach

/-- Where the piece of a window ends: at its last space, if it does not reach the end of the text
and that space lies in its last fifth. -/
def stop? (cs : List Char) (pos target : Nat) : Option Nat := do
  let reach ← reach? cs pos target
  if reach < byteLength cs then
    let covered ← slice? cs pos reach
    match lastOffset? (· == ' ') covered with
    | some space => if 4 * (reach - pos) < 5 * space then some (pos + space) else some reach
    | none => some reach
  else some reach

/-- **The windows from an offset on**, each with its piece. The target of a window is capped at the
greatest size. -/
inductive Run (width overlap : Nat) (cs : List Char) : Nat → List (List Char) → Prop where
  /-- Nothing is left of the text. -/
  | done {pos : Nat} (hpos : byteLength cs ≤ pos) : Run width overlap cs pos []
  /-- The piece of the window reaches the end of the text. -/
  | last {pos stop : Nat} {piece : List Char} (hpos : pos < byteLength cs)
      (hstop : stop? cs pos (min (pos + width) Token.maxSize) = some stop)
      (hpiece : slice? cs pos stop = some piece) (hend : byteLength cs ≤ stop) :
      Run width overlap cs pos [piece]
  /-- The next window begins within the piece, or at its end. -/
  | next {pos stop later : Nat} {piece : List Char} {pieces : List (List Char)}
      (hpos : pos < byteLength cs)
      (hstop : stop? cs pos (min (pos + width) Token.maxSize) = some stop)
      (hpiece : slice? cs pos stop = some piece) (hend : stop < byteLength cs)
      (hlater : ceilFound? cs (pos +
        if overlap < stop - pos then stop - pos - overlap else stop - pos) = some later)
      (hrest : Run width overlap cs later pieces) : Run width overlap cs pos (piece :: pieces)

section Run

variable {width overlap pos target : Nat} {cs before rest : List Char}

/-- **There is only one way to go on** with windows. -/
theorem Run.unique {pieces pieces' : List (List Char)} (h : Run width overlap cs pos pieces)
    (h' : Run width overlap cs pos pieces') : pieces = pieces' := by
  -- Where the first piece ends says by which rule both rows go on.
  induction h generalizing pieces' with
  | done hpos =>
      cases h' with
      | done => rfl
      | last hpos' | next hpos' => omega
  | last hpos hstop hpiece hend =>
      cases h' with
      | done hpos' => omega
      | last _ hstop' hpiece' =>
          obtain rfl := Option.some.inj (hstop.symm.trans hstop')
          obtain rfl := Option.some.inj (hpiece.symm.trans hpiece')
          rfl
      | next _ hstop' _ hend' =>
          obtain rfl := Option.some.inj (hstop.symm.trans hstop')
          omega
  | next hpos hstop hpiece hend hlater hrest ih =>
      cases h' with
      | done hpos' => omega
      | last _ hstop' _ hend' =>
          obtain rfl := Option.some.inj (hstop.symm.trans hstop')
          omega
      | next _ hstop' hpiece' _ hlater' hrest' =>
          obtain rfl := Option.some.inj (hstop.symm.trans hstop')
          obtain rfl := Option.some.inj (hpiece.symm.trans hpiece')
          obtain rfl := Option.some.inj (hlater.symm.trans hlater')
          rw [ih hrest']

/-! ### Where windows end -/

/-- What a window covers is a start of the text. -/
theorem cover_isPrefix (width : Nat) (cs : List Char) : cover width cs <+: cs := by
  rw [cover]
  split
  · exact List.take_prefix 1 cs
  · exact takeBytes_isPrefix width cs

/-- The piece is a start of the text. -/
theorem first_isPrefix (width : Nat) (cs : List Char) : first width cs <+: cs := by
  refine List.IsPrefix.trans ?_ (cover_isPrefix width cs)
  rw [first]
  split
  · rcases snap_cases (cover width cs) with ⟨hsnap, -⟩ | ⟨hsnap, -⟩
    · rw [hsnap]
    · rw [hsnap]
      exact beforeLast_isPrefix _ _
  · exact List.prefix_refl _

/-- **A window ends at first** behind what it covers. -/
theorem reach?_eq (before rest : List Char) (target : Nat) :
    reach? (before ++ rest) (byteLength before) target =
      some (byteLength before + byteLength (cover (target - byteLength before) rest)) := by
  have hbefore : byteLength before ≤ byteLength before + 1 := Nat.le_succ _
  rw [reach?, floorFound?_eq, Option.bind_eq_bind, Option.bind_some, cover]
  rcases floorBoundary_append_cases before rest target with ⟨hle, hnil⟩ | ⟨heq, hne⟩
  · rw [if_pos hle, hnil, ceilFound?_eq, ceilBoundary_append hbefore, Nat.add_sub_cancel_left,
      ceilBoundary, takeBytesUp_one]
  · have hpos := byteLength_pos_iff.mpr hne
    rw [if_neg (by omega), heq]
    split
    · contradiction
    · rfl

/-- **A window ends behind its piece.** -/
theorem stop?_eq (before rest : List Char) (target : Nat) :
    stop? (before ++ rest) (byteLength before) target =
      some (byteLength before + byteLength (first (target - byteLength before) rest)) := by
  rw [stop?, reach?_eq, Option.bind_eq_bind, Option.bind_some, first]
  obtain ⟨after, hafter⟩ := cover_isPrefix (target - byteLength before) rest
  generalize cover (target - byteLength before) rest = covered at hafter
  subst hafter
  -- The window ends before the text exactly when something is left behind what it covers.
  have hiff : byteLength before + byteLength covered < byteLength (before ++ (covered ++ after)) ↔
      covered.length < (covered ++ after).length := by
    rw [byteLength_append, byteLength_append, List.length_append, ← Nat.add_assoc,
      Nat.lt_add_right_iff_pos, Nat.lt_add_right_iff_pos, byteLength_pos_iff, List.length_pos_iff]
  by_cases hshort : covered.length < (covered ++ after).length
  · have hslice : slice? (before ++ (covered ++ after)) (byteLength before)
        (byteLength before + byteLength covered) = some covered :=
      slice?_eq_some (List.append_assoc before covered after).symm rfl rfl
    rw [if_pos (hiff.mpr hshort), if_pos hshort, hslice, Option.bind_eq_bind, Option.bind_some,
      snap, Nat.add_sub_cancel_left]
    rcases lastOffset?_cases (· == ' ') covered with ⟨hnone, hup⟩ | ⟨xs, c, ys, -, -, hsome, hup⟩
    · simp [hnone, hup]
    · rw [hsome, hup, List.dropLast_concat]
      simp only
      split <;> rfl
  · rw [if_neg (mt hiff.mp hshort), if_neg hshort]

/-! ### Windows to the end of the text -/

/-- What a window that begins at `pos` has room for, up to its capped target. -/
def room (width pos : Nat) : Nat := min (pos + width) Token.maxSize - pos

/-- A window with room for the text has all of it as its piece. -/
theorem first_of_le (h : byteLength cs ≤ width) : first width cs = cs := by
  have hcover : cover width cs = cs := by
    rw [cover, takeBytes_of_le h]
    cases cs <;> rfl
  rw [first, hcover]
  exact if_neg (Nat.lt_irrefl _)

/-- In a text within the greatest size the cap on the target makes no difference. -/
theorem first_room (h : byteLength (before ++ rest) ≤ Token.maxSize) :
    first (room width (byteLength before)) rest = first width rest := by
  rw [byteLength_append] at h
  rw [room]
  rcases Nat.le_total (byteLength before + width) Token.maxSize with hle | hle
  · rw [Nat.min_eq_left hle, Nat.add_sub_cancel_left]
  · rw [Nat.min_eq_right hle, first_of_le (by omega), first_of_le (by omega)]

/-- The piece of a window is a slice. -/
theorem slice?_first (before rest : List Char) (width : Nat) :
    slice? (before ++ rest) (byteLength before)
      (byteLength before + byteLength (first width rest)) = some (first width rest) := by
  obtain ⟨after, hafter⟩ := first_isPrefix width rest
  have hsplit : before ++ rest = before ++ first width rest ++ after := by
    rw [List.append_assoc, hafter]
  exact slice?_eq_some hsplit rfl rfl

/-- The window whose piece is all that is left. -/
theorem Run.of_not_lt (hrest : rest ≠ [])
    (h : ¬(first (room width (byteLength before)) rest).length < rest.length) :
    Run width overlap (before ++ rest) (byteLength before)
      [first (room width (byteLength before)) rest] := by
  have hpos := byteLength_pos_iff.mpr hrest
  have hall := (first_isPrefix _ rest).eq_of_length_le (Nat.le_of_not_lt h)
  refine Run.last ?_ (stop?_eq _ _ _) (slice?_first _ _ _) ?_
  · rw [byteLength_append]
    omega
  · rw [← room, hall, byteLength_append]

/-- **A step of the windows**: the next one begins behind a start of what is left. -/
theorem Run.of_lt {piece : List Char} {pieces : List (List Char)}
    (hpiece : first (room width (byteLength before)) rest = piece)
    (h : piece.length < rest.length)
    (hrun : Run width overlap (before ++ rest)
      (byteLength (before ++ takeBytesUp (advance overlap piece) rest)) pieces) :
    Run width overlap (before ++ rest) (byteLength before) (piece :: pieces) := by
  have hslice := slice?_first before rest (room width (byteLength before))
  have hstop := stop?_eq before rest (min (byteLength before + width) Token.maxSize)
  have hprefix := first_isPrefix (room width (byteLength before)) rest
  rw [hpiece] at hslice hprefix
  rw [← room, hpiece] at hstop
  obtain ⟨after, rfl⟩ := hprefix
  have hafter : 0 < byteLength after := by
    rw [byteLength_pos_iff, ← List.length_pos_iff]
    simpa using h
  refine Run.next ?_ hstop hslice ?_ ?_ hrun
  · simp only [byteLength_append]
    omega
  · simp only [byteLength_append]
    omega
  · rw [ceilFound?_eq, ceilBoundary_append (Nat.le_add_right _ _), Nat.add_sub_cancel_left,
      Nat.add_sub_cancel_left, ← advance, ceilBoundary, byteLength_append before]

/-- **The windows come to the end of the text.** They cut its pieces, if its size is within the
greatest one. -/
theorem exists_run (width overlap : Nat) (before rest : List Char) :
    ∃ pieces, Run width overlap (before ++ rest) (byteLength before) pieces ∧
      (byteLength (before ++ rest) ≤ Token.maxSize →
        pieces = Window.pieces width overlap rest) := by
  induction hlength : rest.length using Nat.strong_induction_on generalizing before rest with
  | _ length ih =>
      subst hlength
      by_cases hrest : rest = []
      · subst hrest
        refine ⟨[], Run.done (by simp), fun _ => ?_⟩
        rw [Window.pieces, dif_pos rfl]
      · have hroom : byteLength (before ++ rest) ≤ Token.maxSize →
            first (room width (byteLength before)) rest = first width rest := first_room
        by_cases hlt : (first (room width (byteLength before)) rest).length < rest.length
        · -- The step takes at least a character, so that less is left for the windows behind it.
          generalize hpiece : first (room width (byteLength before)) rest = piece at hlt hroom
          have hstep : 0 < advance overlap piece :=
            advance_pos (hpiece ▸ byteLength_first_pos hrest)
          have hsplit := takeBytesUp_append_dropBytesUp (advance overlap piece) rest
          obtain ⟨pieces, hrun, hpieces⟩ := ih _ (length_dropBytesUp_lt hstep hrest)
            (before ++ takeBytesUp (advance overlap piece) rest) _ rfl
          rw [List.append_assoc, hsplit] at hrun hpieces
          refine ⟨piece :: pieces, Run.of_lt hpiece hlt hrun, fun hsize => ?_⟩
          rw [hroom hsize] at hlt ⊢
          rw [pieces_of_lt hrest hlt, hpieces hsize, hroom hsize]
        · refine ⟨_, Run.of_not_lt hrest hlt, fun hsize => ?_⟩
          rw [hroom hsize] at hlt ⊢
          rw [pieces_of_not_lt hrest hlt]

end Run

end Window

end Courseware
