import Courseware.Proofs.Text.Trim
import Courseware.Source

/-! # Sources in groups

What is put together from some texts are their **pieces** (`pieces`): what trimming leaves of those
that are not blank. Each piece begins and ends with a character that is not blank, and so does what
is put together from them (`solid_intercalate`). So a text put together from a group is one piece
again, and the pieces may be put together in any grouping (`combine_grouped`). -/

namespace Courseware.Source

open Text

variable {texts : List String}

/-- **The pieces** of some texts. -/
def pieces (texts : List String) : List String :=
  (texts.map trimmed).filter fun text => !text.isEmpty

/-- What is put together are the pieces. -/
theorem combine_eq (texts : List String) : combine texts = "\n\n".intercalate (pieces texts) := rfl

/-- The pieces of two rows of texts. -/
theorem pieces_append (xs ys : List String) : pieces (xs ++ ys) = pieces xs ++ pieces ys := by
  rw [pieces, List.map_append, List.filter_append]
  rfl

/-- A piece has no blanks around it. -/
theorem solid_of_mem_pieces {piece : String} (h : piece ∈ pieces texts) : Solid piece.toList := by
  obtain ⟨hmem, hne⟩ := List.mem_filter.mp h
  obtain ⟨text, -, rfl⟩ := List.mem_map.mp hmem
  rw [trimmed, String.toList_ofList]
  refine solid_trim fun hnil => ?_
  simp [trimmed, hnil] at hne

/-- **Texts without blanks around them** have none when they are put together. -/
theorem solid_intercalate (separator : String) {parts : List String} (hne : parts ≠ [])
    (h : ∀ part ∈ parts, Solid part.toList) : Solid (separator.intercalate parts).toList := by
  induction parts with
  | nil => exact absurd rfl hne
  | cons part parts ih =>
      obtain ⟨hpart, hparts⟩ := List.forall_mem_cons.mp h
      by_cases hnil : parts = []
      · rwa [hnil, String.intercalate_singleton]
      · rw [String.intercalate_cons_of_ne_nil hnil, String.toList_append, String.toList_append]
        exact hpart.append (ih hnil hparts) _

/-- Texts without blanks around them are their own pieces. -/
theorem pieces_eq_self (h : ∀ text ∈ texts, Solid text.toList) : pieces texts = texts := by
  have htrimmed : texts.map trimmed = texts.map id := by
    refine List.map_congr_left fun text hmem => ?_
    rw [trimmed, (h text hmem).trim_eq, String.ofList_toList, id]
  rw [pieces, htrimmed, List.map_id, List.filter_eq_self]
  intro text hmem
  have hne := (h text hmem).ne_nil
  simpa [String.isEmpty_iff, ← String.toList_eq_nil_iff] using hne

/-- Nothing is put together exactly from texts without a piece. -/
theorem pieces_singleton_combine (texts : List String) :
    pieces [combine texts] = if pieces texts = [] then [] else [combine texts] := by
  split
  · rename_i hnil
    rw [combine_eq, hnil]
    rfl
  · rename_i hne
    refine pieces_eq_self fun text hmem => ?_
    rw [List.mem_singleton.mp hmem]
    exact solid_intercalate _ hne fun piece => solid_of_mem_pieces

/-- **The pieces of texts put together** are the groups that have a piece. -/
theorem pieces_map_combine (groups : List (List String)) :
    pieces (groups.map combine) =
      ((groups.map pieces).filter fun group => !group.isEmpty).map "\n\n".intercalate := by
  induction groups with
  | nil => rfl
  | cons group groups ih =>
      rw [List.map_cons, ← List.singleton_append, pieces_append, pieces_singleton_combine, ih,
        List.map_cons, List.filter_cons]
      cases hgroup : pieces group with
      | nil => simp
      | cons piece rest => simp [combine_eq, hgroup]

/-- **Groups of texts joined** one by one and then with each other, where groups without a text are
left out. -/
theorem intercalate_map_intercalate (separator : String) (groups : List (List String)) :
    separator.intercalate
        ((groups.filter fun group => !group.isEmpty).map separator.intercalate) =
      separator.intercalate groups.flatten := by
  induction groups with
  | nil => rfl
  | cons group groups ih =>
      by_cases hgroup : group = []
      · simpa [hgroup] using ih
      · have hkept : (!group.isEmpty) = true := by simpa using hgroup
        rw [List.filter_cons, if_pos hkept, List.map_cons, List.flatten_cons]
        by_cases hflat : groups.flatten = []
        · have hnone : (groups.filter fun group => !group.isEmpty) = [] := by
            simpa [List.filter_eq_nil_iff] using hflat
          rw [hflat, hnone, List.append_nil, List.map_nil, String.intercalate_singleton]
        · have hsome :
              (groups.filter fun group => !group.isEmpty).map separator.intercalate ≠ [] := by
            simpa [List.filter_eq_nil_iff] using hflat
          rw [String.intercalate_cons_of_ne_nil hsome, ih,
            String.intercalate_append_of_ne_nil hgroup hflat]

/-- **Texts are put together in any grouping.** -/
theorem combine_flatten (groups : List (List String)) :
    combine groups.flatten = combine (groups.map combine) := by
  have hpieces : pieces groups.flatten = (groups.map pieces).flatten := by
    induction groups with
    | nil => rfl
    | cons group groups ih =>
        rw [List.flatten_cons, pieces_append, ih, List.map_cons, List.flatten_cons]
  rw [combine_eq, combine_eq, pieces_map_combine, intercalate_map_intercalate, hpieces]

/-- **Putting texts together** may be done in any grouping: for two rows of texts, for a single one,
and for any number of them. -/
theorem combine_grouped :
    (∀ xs ys, combine (xs ++ ys) = combine [combine xs, combine ys]) ∧
      (∀ xs, combine [combine xs] = combine xs) ∧
      ∀ groups : List (List String), combine groups.flatten = combine (groups.map combine) := by
  refine ⟨fun xs ys => ?_, fun xs => ?_, combine_flatten⟩
  · simpa using combine_flatten [xs, ys]
  · simpa using (combine_flatten [xs]).symm

end Courseware.Source
