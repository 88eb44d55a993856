import Courseware.Context.Truncation
import Courseware.Proofs.Chunk.Offset

/-! # Cuts by their offsets

A text is cut down here by offsets into its bytes: its window is a slice, and so is what the cut
leaves of that, up to the last sentence mark or before the last space (`cutAt?_eq`). With the pieces
of a text (`Segment.packAt?_eq`, `Window.exists_run`) these are all the slices that are taken of a
text, and none of them splits a character (`cuts_keep_characters`). -/

namespace Courseware

open Text

/-! ## Truncations -/

namespace Truncation

/-- The cut of a window before its last space, if that is in the last tenth of the limit. -/
def phraseAt? (limit : Nat) (window : List Char) : Option (List Char) :=
  match lastOffset? (· == ' ') window with
  | some space =>
    if 9 * limit < 10 * space then (slice? window 0 space).map trim else some (trim window)
  | none => some (trim window)

/-- The cut of a text behind the last sentence mark of its window, if that is in the last fifth of
the limit, and otherwise before a space or at the limit. -/
def cutAt? (limit : Nat) (cs : List Char) : Option (List Char) := do
  let window ← head? limit cs
  match lastOffset? Boundary.isSentenceMark window with
  | some mark =>
    if 4 * limit < 5 * mark then (slice? window 0 (mark + 1)).map trim
    else phraseAt? limit window
  | none => phraseAt? limit window

/-- A sentence mark is one byte long. -/
theorem utf8Size_of_isSentenceMark {c : Char} (h : Boundary.isSentenceMark c = true) :
    c.utf8Size = 1 := by
  simp only [Boundary.isSentenceMark, Bool.or_eq_true, beq_iff_eq] at h
  obtain (rfl | rfl) | rfl := h <;> rfl

/-- The cut before a space is a slice. -/
theorem phraseAt?_eq (limit : Nat) (window : List Char) :
    phraseAt? limit window =
      some (if 9 * limit < 10 * byteLength (upToLast (· == ' ') window).dropLast then
        trim (upToLast (· == ' ') window).dropLast else trim window) := by
  rw [phraseAt?]
  rcases lastOffset?_cases (· == ' ') window with ⟨hnone, hup⟩ | ⟨xs, c, ys, rfl, -, hsome, hup⟩
  · simp [hnone, hup]
  · rw [hsome, hup, List.dropLast_concat]
    simp only [slice?_zero, Option.map_some]
    split <;> rfl

/-- **A cut is a slice.** -/
theorem cutAt?_eq (limit : Nat) (cs : List Char) : cutAt? limit cs = some (cut limit cs) := by
  rw [cutAt?, head?_eq, Option.bind_eq_bind, Option.bind_some, cut]
  generalize takeBytes limit cs = window
  rcases lastOffset?_cases Boundary.isSentenceMark window with
    ⟨hnone, hup⟩ | ⟨xs, c, ys, hwindow, hc, hsome, hup⟩
  · -- Without a sentence mark the sentences are empty, and end too early.
    have hearly : ¬4 * limit < 5 * (byteLength [] - 1) := Nat.not_lt_zero _
    simp only [hnone, hup, phraseAt?_eq]
    rw [if_neg hearly]
  · -- The cut goes on behind the mark, which is no boundary unless the mark is one byte long.
    have hsize : byteLength (xs ++ [c]) = byteLength xs + 1 := by
      rw [byteLength_append, byteLength_cons, utf8Size_of_isSentenceMark hc, byteLength_nil]
    have hsentence : slice? window 0 (byteLength xs + 1) = some (xs ++ [c]) := by
      rw [← hsize, hwindow, List.append_cons]
      exact slice?_zero _ _
    simp only [hsome, hup, hsize, hsentence, phraseAt?_eq, Nat.add_sub_cancel, Option.map_some]
    split
    · rfl
    · split <;> rfl

end Truncation

/-! ## All slices of a text -/

/-- **No slice splits a character.** The searches for boundaries stay in the text and find the
nearest ones. So the slices at the start and the end of the text are the longest ones within a size,
and all slices that are taken to pack segments, to slide windows and to cut a text down are between
boundaries. What they give is what the text is cut into. -/
theorem cuts_keep_characters (cs : List Char) (n : Nat) (budget : ChunkBudget) :
    (floorFound? cs n = some (floorBoundary cs n) ∧
        IsGreatest {b | isCharBoundary cs b = true ∧ b ≤ min n (byteLength cs)}
          (floorBoundary cs n)) ∧
      (ceilFound? cs n = some (ceilBoundary cs n) ∧
        IsLeast {b | isCharBoundary cs b = true ∧ min n (byteLength cs) ≤ b}
          (ceilBoundary cs n)) ∧
      (head? n cs = some (takeBytes n cs) ∧ IsLongestStart n cs (takeBytes n cs)) ∧
      (tail? n cs = some (takeLastBytes n cs) ∧ IsLongestEnd n cs (takeLastBytes n cs)) ∧
      (Boundary.find cs).map (Segment.packAt? (Token.toBytes budget.maxTokens)
          (Token.toBytes budget.overlapTokens) cs [] 0) =
        (Segment.pieces budget cs).map some ∧
      (∃ pieces,
        (∀ other, Window.Run (Token.toBytes budget.maxTokens)
          (Token.toBytes budget.overlapTokens) cs 0 other ↔ other = pieces) ∧
        (byteLength cs ≤ Token.maxSize → pieces =
          Window.pieces (Token.toBytes budget.maxTokens) (Token.toBytes budget.overlapTokens) cs)) ∧
      Truncation.cutAt? n cs = some (Truncation.cut n cs) := by
  refine ⟨⟨floorFound?_eq cs n, isGreatest_floorBoundary_min cs n⟩,
    ⟨ceilFound?_eq cs n, isLeast_ceilBoundary_min cs n⟩,
    ⟨head?_eq n cs, isLongestStart_takeBytes n cs⟩,
    ⟨tail?_eq n cs, isLongestEnd_takeLastBytes n cs⟩,
    Segment.map_packAt?_find budget cs, ?_, Truncation.cutAt?_eq n cs⟩
  obtain ⟨pieces, hrun, hpieces⟩ := Window.exists_run (Token.toBytes budget.maxTokens)
    (Token.toBytes budget.overlapTokens) [] cs
  refine ⟨pieces, fun other => ⟨fun hother => hother.unique hrun, ?_⟩, hpieces⟩
  rintro rfl
  exact hrun

/-- The slices of a text whose second character has two bytes. -/
theorem cuts_keep_characters_of_accent :
    byteLength "aé b".toList ≤ Token.maxSize ∧
      floorFound? "aé b".toList 2 = some 1 ∧ ceilFound? "aé b".toList 2 = some 3 ∧
      head? 2 "aé b".toList = some ['a'] ∧ tail? 2 "aé b".toList = some [' ', 'b'] ∧
      Window.Run 4 0 "aé b".toList 0 (Window.pieces 4 0 "aé b".toList) := by
  have hsize : byteLength "aé b".toList ≤ Token.maxSize := by decide
  obtain ⟨⟨hfloor, -⟩, ⟨hceil, -⟩, ⟨hhead, -⟩, ⟨htail, -⟩, -, ⟨pieces, hrun, hpieces⟩, -⟩ :=
    cuts_keep_characters "aé b".toList 2 ⟨1, 0⟩
  exact ⟨hsize, hfloor, hceil, hhead, htail, (hrun _).mpr (hpieces hsize).symm⟩

end Courseware
