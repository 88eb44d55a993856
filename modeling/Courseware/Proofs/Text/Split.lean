import Mathlib.Data.List.Infix
import Courseware.Text.Search

/-! # Splitting a text at a pattern

The first occurrence of a pattern is not moved by a text in front of it that lacks the first
character of the pattern (`splitOnce?_append_left`), nor by one behind it that has no character of
the pattern (`splitOnce?_append_right`). -/

namespace Courseware.Text

/-- A text with another first character does not begin with a pattern. -/
theorem isPrefixOf_cons_of_ne {p c : Char} (h : p ≠ c) (pattern cs : List Char) :
    (p :: pattern).isPrefixOf (c :: cs) = false := by
  rw [List.isPrefixOf, beq_eq_false_iff_ne.mpr h, Bool.false_and]

/-- Whether a text begins with a pattern does not depend on a text behind it that has no characters
of the pattern. -/
theorem isPrefixOf_append {pattern behind : List Char} (h : ∀ c ∈ pattern, c ∉ behind)
    (cs : List Char) : pattern.isPrefixOf (cs ++ behind) = pattern.isPrefixOf cs := by
  induction pattern generalizing cs with
  | nil => simp
  | cons p pattern ih =>
      obtain ⟨hp, hpattern⟩ := List.forall_mem_cons.mp h
      cases cs with
      | nil =>
          cases behind with
          | nil => rfl
          | cons c behind =>
              have hne : p ≠ c := by
                rintro rfl
                exact hp List.mem_cons_self
              exact isPrefixOf_cons_of_ne hne pattern behind
      | cons c cs => rw [List.cons_append, List.isPrefixOf, List.isPrefixOf, ih hpattern cs]

/-- A pattern does not occur in a text without its first character. -/
theorem splitOnce?_eq_none {p : Char} {pattern cs : List Char} (h : p ∉ cs) :
    splitOnce? (p :: pattern) cs = none := by
  induction cs with
  | nil => rfl
  | cons c cs ih =>
      obtain ⟨hc, hcs⟩ := not_or.mp (mt List.mem_cons.mpr h)
      rw [splitOnce?, isPrefixOf_cons_of_ne hc, if_neg Bool.false_ne_true, ih hcs, Option.map_none]

/-- A text in front of another one without the first character of the pattern stays in front of the
first occurrence. -/
theorem splitOnce?_append_left {p : Char} {pattern lead : List Char} (h : p ∉ lead)
    (cs : List Char) :
    splitOnce? (p :: pattern) (lead ++ cs) =
      (splitOnce? (p :: pattern) cs).map fun (before, after) => (lead ++ before, after) := by
  induction lead with
  | nil =>
      rw [List.nil_append]
      cases splitOnce? (p :: pattern) cs <;> rfl
  | cons c lead ih =>
      obtain ⟨hc, hlead⟩ := not_or.mp (mt List.mem_cons.mpr h)
      rw [List.cons_append, splitOnce?, isPrefixOf_cons_of_ne hc, if_neg Bool.false_ne_true,
        ih hlead, Option.map_map]
      rfl

/-- A text behind another one without the characters of the pattern stays behind the first
occurrence. -/
theorem splitOnce?_append_right {p : Char} {pattern behind : List Char}
    (h : ∀ c ∈ p :: pattern, c ∉ behind) (cs : List Char) :
    splitOnce? (p :: pattern) (cs ++ behind) =
      (splitOnce? (p :: pattern) cs).map fun (before, after) => (before, after ++ behind) := by
  induction cs with
  | nil => exact splitOnce?_eq_none (h p List.mem_cons_self)
  | cons c cs ih =>
      have hprefix := isPrefixOf_append h (c :: cs)
      rw [List.cons_append] at hprefix
      rw [List.cons_append, splitOnce?, splitOnce?, hprefix]
      split
      · -- The first occurrence ends in front of the text behind.
        rename_i hfound
        have hlength := (List.isPrefixOf_iff_prefix.mp hfound).length_le
        rw [Option.map_some, ← List.cons_append, List.drop_append_of_le_length hlength]
      · rw [ih, Option.map_map, Option.map_map]
        rfl

/-- The text around the first occurrence of a pattern. -/
theorem eq_append_of_splitOnce? {pattern cs before after : List Char}
    (h : splitOnce? pattern cs = some (before, after)) : cs = before ++ (pattern ++ after) := by
  induction cs generalizing before with
  | nil =>
      rw [splitOnce?] at h
      split at h
      · rename_i hempty
        cases h
        rw [List.isEmpty_iff.mp hempty]
        rfl
      · cases h
  | cons c cs ih =>
      rw [splitOnce?] at h
      split at h
      · rename_i hfound
        obtain ⟨rest, hrest⟩ := List.isPrefixOf_iff_prefix.mp hfound
        cases h
        rw [← hrest, List.drop_left, List.nil_append]
      · obtain ⟨⟨before', after'⟩, hsplit, hparts⟩ := Option.map_eq_some_iff.mp h
        cases hparts
        rw [ih hsplit, List.cons_append]

/-- A pattern in front of a text occurs there first. -/
theorem splitOnce?_pattern (p : Char) (pattern rest : List Char) :
    splitOnce? (p :: pattern) (p :: pattern ++ rest) = some ([], rest) := by
  have hfound : (p :: pattern).isPrefixOf (p :: (pattern ++ rest)) = true :=
    List.isPrefixOf_iff_prefix.mpr (List.prefix_append (p :: pattern) rest)
  rw [List.cons_append, splitOnce?, if_pos hfound, ← List.cons_append, List.drop_left]

/-- A pattern goes over no character that it does not have. -/
theorem isPrefix_of_isPrefix_append_cons {d : Char} {pattern cs rest : List Char} (hd : d ∉ pattern)
    (h : pattern <+: cs ++ d :: rest) : pattern <+: cs := by
  rcases List.prefix_or_prefix_of_prefix h (List.prefix_append cs (d :: rest)) with hle | ⟨beyond, rfl⟩
  · exact hle
  · cases beyond with
    | nil => rw [List.append_nil]
    | cons c beyond =>
        rw [List.prefix_append_right_inj, List.cons_prefix_cons] at h
        exact absurd (List.mem_append_right cs (h.1 ▸ List.mem_cons_self)) hd

/-- **The first occurrence of a pattern** that stands behind a text without it and a character that
it does not have. -/
theorem splitOnce?_append_cons {p d : Char} {pattern cs : List Char} (hd : d ∉ p :: pattern)
    (h : ¬ p :: pattern <:+: cs) (rest : List Char) :
    splitOnce? (p :: pattern) (cs ++ d :: (p :: pattern ++ rest)) = some (cs ++ [d], rest) := by
  have hnone : ∀ ds, ¬ p :: pattern <+: ds →
      ¬ (p :: pattern).isPrefixOf (ds ++ d :: (p :: pattern ++ rest)) = true :=
    fun ds hds hfound =>
      hds (isPrefix_of_isPrefix_append_cons hd (List.isPrefixOf_iff_prefix.mp hfound))
  induction cs with
  | nil =>
      have hstart := hnone [] (by simp)
      rw [List.nil_append] at hstart ⊢
      rw [splitOnce?, if_neg hstart, splitOnce?_pattern]
      rfl
  | cons c cs ih =>
      have hstart := hnone (c :: cs) fun hprefix => h hprefix.isInfix
      rw [List.cons_append] at hstart ⊢
      rw [splitOnce?, if_neg hstart, ih fun hinside => h (hinside.trans (List.suffix_cons c cs).isInfix)]
      rfl

end Courseware.Text
