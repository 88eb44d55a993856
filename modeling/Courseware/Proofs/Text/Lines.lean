import Mathlib.Data.List.Chain
import Mathlib.Data.List.Infix
import Courseware.Text.Search

/-! # Lines of a text

A newline divides the lines of a text and belongs to none of them. Joining the lines with newlines
gives the text back, and a line of a text with newlines around it is a part of the text with
newlines around it (`between_newlines`). -/

namespace Courseware.Text

variable {c : Char} {line cs : List Char}

@[simp] theorem lines_nil : lines [] = [[]] := rfl

/-- A newline ends a line. -/
@[simp] theorem lines_newline_cons (cs : List Char) : lines ('\n' :: cs) = [] :: lines cs := by
  rw [lines, List.splitOn, List.splitOnP_cons_eq_if_modifyHead, if_pos (by decide)]
  rfl

/-- Every other character stands on the first line. -/
theorem lines_cons (hc : c ≠ '\n') (cs : List Char) :
    ∃ first rest, lines cs = first :: rest ∧ lines (c :: cs) = (c :: first) :: rest := by
  obtain ⟨first, rest, hlines⟩ := List.exists_cons_of_ne_nil (List.splitOnP_ne_nil (· == '\n') cs)
  refine ⟨first, rest, hlines, ?_⟩
  rw [lines, List.splitOn, List.splitOnP_cons_eq_if_modifyHead, if_neg (by simpa using hc), hlines,
    List.modifyHead_cons]

/-- A text has a line. -/
theorem lines_ne_nil (cs : List Char) : lines cs ≠ [] := List.splitOnP_ne_nil _ cs

/-- No newline stands on a line. -/
theorem newline_not_mem_of_mem_lines (h : line ∈ lines cs) : '\n' ∉ line := by
  induction cs generalizing line with
  | nil =>
      rw [lines_nil, List.mem_singleton] at h
      rw [h]
      exact List.not_mem_nil
  | cons c cs ih =>
      by_cases hc : c = '\n'
      · subst hc
        rw [lines_newline_cons] at h
        rcases List.mem_cons.mp h with rfl | h
        · exact List.not_mem_nil
        · exact ih h
      · obtain ⟨first, rest, hlines, hcons⟩ := lines_cons hc cs
        rw [hcons] at h
        rw [hlines] at ih
        rcases List.mem_cons.mp h with rfl | h
        · rw [List.mem_cons, not_or]
          exact ⟨Ne.symm hc, ih List.mem_cons_self⟩
        · exact ih (List.mem_cons_of_mem first h)

/-- **The lines joined** give the text. -/
@[simp] theorem joinWith_lines (cs : List Char) : joinWith ['\n'] (lines cs) = cs :=
  List.intercalate_splitOn '\n'

/-- The first line of a text follows what stands before the text, and every other line follows a
newline. -/
theorem exists_lines_eq_cons (cs : List Char) (before : Char) :
    ∃ first rest, lines cs = first :: rest ∧
      before :: first ++ ['\n'] <+: before :: cs ++ ['\n'] ∧
        ∀ line ∈ rest, '\n' :: line ++ ['\n'] <:+: before :: cs ++ ['\n'] := by
  induction cs generalizing before with
  | nil => exact ⟨[], [], rfl, List.prefix_refl _, by simp⟩
  | cons c cs ih =>
      obtain ⟨first, rest, hlines, hfirst, hrest⟩ := ih c
      have hbehind : ∀ line ∈ rest, '\n' :: line ++ ['\n'] <:+: before :: c :: cs ++ ['\n'] :=
        fun line hmem => (hrest line hmem).trans (List.suffix_cons before _).isInfix
      by_cases hc : c = '\n'
      · subst hc
        refine ⟨[], lines cs, lines_newline_cons cs, by simp, fun line hmem => ?_⟩
        rw [hlines] at hmem
        rcases List.mem_cons.mp hmem with rfl | hmem
        · exact hfirst.isInfix.trans (List.suffix_cons before _).isInfix
        · exact hbehind line hmem
      · obtain ⟨first', rest', hlines', hcons⟩ := lines_cons hc cs
        obtain ⟨rfl, rfl⟩ := List.cons.inj (hlines.symm.trans hlines')
        exact ⟨c :: first, rest, hcons, (List.prefix_cons_inj before).mpr hfirst, hbehind⟩

/-- **A line with newlines around it** is a part of the text with newlines around it. -/
theorem between_newlines (h : line ∈ lines cs) :
    '\n' :: line ++ ['\n'] <:+: '\n' :: cs ++ ['\n'] := by
  obtain ⟨first, rest, hlines, hfirst, hrest⟩ := exists_lines_eq_cons cs '\n'
  rw [hlines] at h
  rcases List.mem_cons.mp h with rfl | h
  · exact hfirst.isInfix
  · exact hrest line h

end Courseware.Text
