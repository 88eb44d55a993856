import Courseware.Proofs.Json.Grammar
import Courseware.Proofs.Text.Trim

/-! # How far a value reaches

What the spelling of a value says about a text that holds one.

* It may be **trimmed** (`parse_trim`), and gaps may be put behind it (`parse_append_gaps`).
* When it **begins with a bracket**, nothing but gaps stands behind the last bracket
  (`exists_closing_of_parse`); when it begins with a letter or a digit, it has no brackets
  (`isScalar_or_isGap_of_parse`).
* A **backtick** stands in a quoted text, which ends on its line (`enclosed_of_parse`).
-/

namespace Courseware.Json

open Text

variable {c : Char} {cs used gap : List Char} {json : Json}

/-! ## Ends of spellings -/

section Parts

variable {α : Type} {closing : Char} {Part : List Char → α → Prop} {parts : List α}

/-- The parts behind a part end with the closing bracket. -/
theorem SpellsBehind.suffix (h : SpellsBehind closing Part used parts) : [closing] <:+ used := by
  induction h with
  | close => exact List.suffix_append _ [closing]
  | @comma gap used _ _ _ _ _ _ ih => exact ih.trans ⟨gap ++ ',' :: used, by simp⟩

/-- The parts of an array or an object end with the closing bracket. -/
theorem SpellsParts.suffix (h : SpellsParts closing Part used parts) : [closing] <:+ used := by
  cases h with
  | none => exact List.suffix_append _ [closing]
  | some _ hbehind => exact hbehind.suffix.trans (List.suffix_append _ _)

end Parts

/-- A value is spelled by its own characters and by the values inside it. -/
theorem Spells.over {depth : Nat} (h : Spells depth used json) :
    ∃ below, SpellsOver below used json := by
  cases depth with
  | zero => exact ⟨_, h⟩
  | succ depth => exact ⟨_, h⟩

/-! ## Blanks around a value -/

/-- A gap is blank. -/
theorem isBlank_of_isGap (h : isGap c = true) : isBlank c = true := by
  simp only [isGap, Bool.or_eq_true, beq_iff_eq] at h
  rcases h with ((rfl | rfl) | rfl) | rfl <;> decide

/-- Gaps are blanks. -/
theorem IsGaps.isBlankText (h : IsGaps gap) : isBlankText gap = true :=
  isBlankText_iff.mpr fun c hc => isBlank_of_isGap (h c hc)

/-- A character of a number or a word is not blank. -/
theorem isBlank_of_isScalar (h : isScalar c = true) : isBlank c = false := by
  have hcode : 43 ≤ c.toNat ∧ c.toNat < 128 := by
    change (((decide (c.val ≥ 'A'.val ∧ c.val ≤ 'Z'.val) ||
      decide (c.val ≥ 'a'.val) && decide (c.val ≤ 'z'.val)) ||
      decide (c.val ≥ '0'.val) && decide (c.val ≤ '9'.val)) ||
      c == '-' || c == '+' || c == '.') = true at h
    simp only [Bool.or_eq_true, Bool.and_eq_true, decide_eq_true_eq, beq_iff_eq, ge_iff_le,
      UInt32.le_iff_toNat_le] at h
    rcases h with (((h | rfl) | rfl) | rfl)
    · change (65 ≤ c.toNat ∧ c.toNat ≤ 90 ∨ 97 ≤ c.toNat ∧ c.toNat ≤ 122) ∨
        48 ≤ c.toNat ∧ c.toNat ≤ 57 at h
      omega
    all_goals decide
  simp only [isBlank, blankRanges, List.any_cons, List.any_nil, Bool.or_false,
    Bool.or_eq_false_iff, Bool.and_eq_false_iff, decide_eq_false_iff_not]
  omega

/-- **There are no blanks around a value** in its spelling. -/
theorem SpellsOver.solid {below : Option (List Char → Json → Prop)}
    (h : SpellsOver below used json) : Solid used := by
  have hends : ∀ {c d : Char} {tail}, isBlank c = false → isBlank d = false →
      [d] <:+ c :: tail → Solid (c :: tail) := by
    rintro c d tail hc hd ⟨front, hfront⟩
    exact ⟨⟨c, tail, rfl, hc⟩, front, d, hfront.symm, hd⟩
  cases h with
  | scalar h =>
      refine ⟨?_, ?_⟩
      · obtain ⟨c, tail, rfl⟩ := List.exists_cons_of_ne_nil h.ne_nil
        exact ⟨c, tail, rfl, isBlank_of_isScalar (h.scalar c List.mem_cons_self)⟩
      · obtain ⟨front, c, rfl⟩ := (List.eq_nil_or_concat' used).resolve_left h.ne_nil
        exact ⟨front, c, rfl, isBlank_of_isScalar (h.scalar c (by simp))⟩
  | string h => exact hends (by decide) (by decide) (List.suffix_append ('"' :: _) ['"'])
  | array h => exact hends (by decide) (by decide) (h.suffix.trans (List.suffix_cons '[' _))
  | object h => exact hends (by decide) (by decide) (h.suffix.trans (List.suffix_cons '\x7b' _))

/-- **A text with one value may be trimmed.** -/
theorem parse_trim (h : parse cs = .ok json) : parse (trim cs) = .ok json := by
  obtain ⟨lead, used, trail, rfl, hlead, htrail, hused⟩ := parse_eq_ok_iff.mp h
  obtain ⟨below, hover⟩ := hused.over
  have htrim : trim (lead ++ used ++ trail) = used := by
    rw [hover.solid.trim_append, trimStart_eq_nil_iff.mpr hlead.isBlankText,
      trimEnd_eq_nil_iff.mpr htrail.isBlankText, List.nil_append, List.append_nil]
  exact parse_eq_ok_iff.mpr ⟨[], used, [], by rw [htrim]; simp, nofun, nofun, hused⟩

/-- **Gaps may be put behind a text with one value.** -/
theorem parse_append_gaps (hgap : IsGaps gap) (h : parse cs = .ok json) :
    parse (cs ++ gap) = .ok json := by
  obtain ⟨lead, used, trail, rfl, hlead, htrail, hused⟩ := parse_eq_ok_iff.mp h
  exact parse_eq_ok_iff.mpr ⟨lead, used, trail ++ gap, by simp, hlead,
    List.forall_mem_append.mpr ⟨htrail, hgap⟩, hused⟩

/-! ## First characters -/

/-- A text with one value that does not begin with a gap begins with the value. -/
theorem exists_spelling_of_parse (hc : isGap c = false) (h : parse (c :: cs) = .ok json) :
    ∃ below used trail, c :: cs = used ++ trail ∧ IsGaps trail ∧ SpellsOver below used json := by
  obtain ⟨lead, used, trail, hcs, hlead, htrail, hused⟩ := parse_eq_ok_iff.mp h
  obtain ⟨below, hover⟩ := hused.over
  cases lead with
  | nil => exact ⟨below, used, trail, hcs, htrail, hover⟩
  | cons d lead =>
      obtain ⟨rfl, -⟩ := List.cons.inj hcs
      rw [hlead c List.mem_cons_self] at hc
      cases hc

/-- **In a text with one value that begins with a bracket** nothing but gaps stands behind the
closing bracket. -/
theorem exists_closing_of_parse (hc : c ∈ ['[', '\x7b']) (h : parse (c :: cs) = .ok json) :
    ∃ used close gap, cs = used ++ close :: gap ∧ close ∈ [']', '\x7d'] ∧
      ∀ d ∈ gap, isGap d = true := by
  have hopens : isGap c = false ∧ isScalar c = false := by
    simp only [List.mem_cons, List.not_mem_nil, or_false] at hc
    rcases hc with rfl | rfl <;> decide
  obtain ⟨below, used, trail, hcs, htrail, hover⟩ := exists_spelling_of_parse hopens.1 h
  cases hover with
  | scalar hscalar =>
      -- A bracket belongs to no number and no word.
      obtain ⟨d, tail, rfl⟩ := List.exists_cons_of_ne_nil hscalar.ne_nil
      obtain ⟨rfl, -⟩ := List.cons.inj hcs
      rw [hscalar.scalar c List.mem_cons_self] at hopens
      cases hopens.2
  | string =>
      obtain ⟨rfl, -⟩ := List.cons.inj hcs
      simp at hc
  | array hitems =>
      obtain ⟨front, rfl⟩ := hitems.suffix
      exact ⟨front, ']', trail, by simpa using (List.cons.inj hcs).2, by decide, htrail⟩
  | object hmembers =>
      obtain ⟨front, rfl⟩ := hmembers.suffix
      exact ⟨front, '\x7d', trail, by simpa using (List.cons.inj hcs).2, by decide, htrail⟩

/-- **A text with one value that begins otherwise** has no brackets: it is a number or a word, and
gaps. -/
theorem isScalar_or_isGap_of_parse (hgap : isGap c = false) (hc : c ∉ ['"', '[', '\x7b'])
    (h : parse (c :: cs) = .ok json) : ∀ d ∈ c :: cs, isScalar d = true ∨ isGap d = true := by
  obtain ⟨below, used, trail, hcs, htrail, hover⟩ := exists_spelling_of_parse hgap h
  cases hover with
  | scalar hscalar =>
      intro d hd
      rw [hcs] at hd
      exact (List.mem_append.mp hd).imp (hscalar.scalar d) (htrail d)
  | _ =>
      obtain ⟨rfl, -⟩ := List.cons.inj hcs
      simp at hc

/-! ## Backticks -/

/-- **A quote on the line**: there is one before the next newline. -/
def QuoteAhead (cs : List Char) : Prop := ∃ inner rest, cs = inner ++ '"' :: rest ∧ '\n' ∉ inner

/-- **Every backtick is inside a text**, so that a quote is ahead of it on its line. -/
def Enclosed : List Char → Prop
  | [] => True
  | c :: cs => (c = '\x60' → QuoteAhead cs) ∧ Enclosed cs

namespace Enclosed

variable {xs ys body behind : List Char}

/-- A text without backticks. -/
theorem of_not_mem (h : '\x60' ∉ xs) : Enclosed xs := by
  induction xs with
  | nil => trivial
  | cons c xs ih =>
      obtain ⟨hc, hxs⟩ := not_or.mp (mt List.mem_cons.mpr h)
      exact ⟨fun heq => absurd heq.symm hc, ih hxs⟩

/-- Gaps are no backticks. -/
theorem of_isGaps (h : IsGaps gap) : Enclosed gap :=
  of_not_mem fun hmem => absurd (h '\x60' hmem) (by decide)

/-- One text behind another. -/
theorem append (hxs : Enclosed xs) (hys : Enclosed ys) : Enclosed (xs ++ ys) := by
  induction xs with
  | nil => exact hys
  | cons c xs ih =>
      refine ⟨fun hc => ?_, ih hxs.2⟩
      obtain ⟨inner, rest, rfl, hinner⟩ := hxs.1 hc
      exact ⟨inner, rest ++ ys, by simp, hinner⟩

/-- Another character in front. -/
theorem cons (hc : c ≠ '\x60') (h : Enclosed xs) : Enclosed (c :: xs) :=
  ⟨fun heq => absurd heq hc, h⟩

/-- A part without newlines in front of a quote. -/
theorem quoted (h : Enclosed xs) (hbody : '\n' ∉ body) : Enclosed (body ++ '"' :: xs) := by
  induction body with
  | nil => exact h.cons (by decide)
  | cons c body ih =>
      obtain ⟨-, htail⟩ := not_or.mp (mt List.mem_cons.mpr hbody)
      exact ⟨fun _ => ⟨body, xs, rfl, htail⟩, ih htail⟩

/-- A quote is ahead of a backtick. -/
theorem quoteAhead (h : Enclosed (xs ++ '\x60' :: behind)) : QuoteAhead behind := by
  induction xs with
  | nil => exact h.1 rfl
  | cons c xs ih => exact ih h.2

end Enclosed

section Parts

variable {α : Type} {closing : Char} {Part : List Char → α → Prop} {parts : List α}

/-- Backticks in the parts behind a part are inside texts, if that is so for the parts. -/
theorem SpellsBehind.enclosed (hclosing : closing ≠ '\x60')
    (hpart : ∀ used part, Part used part → Enclosed used)
    (h : SpellsBehind closing Part used parts) : Enclosed used := by
  induction h with
  | close hgap => exact (Enclosed.of_isGaps hgap).append (.cons hclosing trivial)
  | comma hgap hfirst _ ih =>
      exact (Enclosed.of_isGaps hgap).append (((hpart _ _ hfirst).append ih).cons (by decide))

/-- Backticks in the parts of an array or an object are inside texts, if that is so for the parts. -/
theorem SpellsParts.enclosed (hclosing : closing ≠ '\x60')
    (hpart : ∀ used part, Part used part → Enclosed used)
    (h : SpellsParts closing Part used parts) : Enclosed used := by
  cases h with
  | none hgap => exact (Enclosed.of_isGaps hgap).append (.cons hclosing trivial)
  | some hfirst hbehind => exact (hpart _ _ hfirst).append (hbehind.enclosed hclosing hpart)

end Parts

section Values

variable {Inner : List Char → Json → Prop} (hinner : ∀ used json, Inner used json → Enclosed used)

include hinner

/-- Backticks in an item are inside texts. -/
theorem SpellsItem.enclosed (h : SpellsItem Inner used json) : Enclosed used := by
  cases h with
  | mk hlead hvalue => exact (Enclosed.of_isGaps hlead).append (hinner _ _ hvalue)

/-- Backticks in a member are inside texts. -/
theorem SpellsMember.enclosed {member : String × Json} (h : SpellsMember Inner used member) :
    Enclosed used := by
  cases h with
  | mk hlead hname hgap hvalue =>
      have hcolon : Enclosed (':' :: _) := (hvalue.enclosed hinner).cons (by decide)
      have hbehind := ((Enclosed.of_isGaps hgap).append hcolon).quoted hname.1
      exact (Enclosed.of_isGaps hlead).append (hbehind.cons (by decide))

end Values

/-- Backticks in a value are inside texts, if that is so for the values inside it. -/
theorem SpellsOver.enclosed {below : Option (List Char → Json → Prop)}
    (h : SpellsOver below used json)
    (hbelow : ∀ Inner, below = some Inner → ∀ used json, Inner used json → Enclosed used) :
    Enclosed used := by
  cases h with
  | scalar h => exact .of_not_mem fun hmem => absurd (h.scalar '\x60' hmem) (by decide)
  | string h => exact ((Enclosed.of_not_mem List.not_mem_nil).quoted h.1).cons (by decide)
  | array h =>
      have hparts := h.enclosed (by decide) fun _ _ hitem => hitem.enclosed (hbelow _ rfl)
      exact hparts.cons (by decide)
  | object h =>
      have hparts := h.enclosed (by decide) fun _ _ hmember => hmember.enclosed (hbelow _ rfl)
      exact hparts.cons (by decide)

/-- Backticks in a value are inside texts, however deep it is nested. -/
theorem Spells.enclosed {depth : Nat} (h : Spells depth used json) : Enclosed used := by
  induction depth generalizing used json with
  | zero => exact SpellsOver.enclosed h nofun
  | succ depth ih =>
      refine SpellsOver.enclosed h fun Inner hinner used json hused => ?_
      cases hinner
      exact ih hused

/-- **In a text with one value** every backtick is inside a quoted text. -/
theorem enclosed_of_parse (h : parse cs = .ok json) : Enclosed cs := by
  obtain ⟨lead, used, trail, rfl, hlead, htrail, hused⟩ := parse_eq_ok_iff.mp h
  exact ((Enclosed.of_isGaps hlead).append hused.enclosed).append (.of_isGaps htrail)

end Courseware.Json
