import Mathlib.Data.List.DropRight
import Mathlib.Data.List.Infix
import Mathlib.Data.List.TakeWhile
import Courseware.Text.Blank
import Courseware.Text.Search

/-! # Trimming and the last character of a class

Trimming takes blanks away from both ends and nothing else (`exists_eq_append_trim`), so it leaves
nothing of a blank text alone, and what it leaves begins with a character that is not blank. The
part of a text up to its last character of a class is the longest start that ends with one. -/

namespace Courseware.Text

/-! ## Blank texts -/

@[simp] theorem isBlankText_append (xs ys : List Char) :
    isBlankText (xs ++ ys) = (isBlankText xs && isBlankText ys) := List.all_append

/-- A text is blank when it is made of blanks. -/
theorem isBlankText_iff {cs : List Char} : isBlankText cs = true ↔ ∀ c ∈ cs, isBlank c = true :=
  List.all_eq_true

/-- A text that is not blank has a character that is not. -/
theorem isBlankText_eq_false_iff {cs : List Char} :
    isBlankText cs = false ↔ ∃ c ∈ cs, isBlank c = false := by
  simp [isBlankText]

/-- A text that is not blank, cut before its first character that is not. -/
theorem exists_eq_append_cons {cs : List Char} (h : isBlankText cs = false) :
    ∃ lead c rest, cs = lead ++ c :: rest ∧ isBlankText lead = true ∧ isBlank c = false := by
  induction cs with
  | nil => simp at h
  | cons c cs ih =>
      cases hc : isBlank c with
      | false => exact ⟨[], c, cs, rfl, rfl, hc⟩
      | true =>
          rw [isBlankText_cons, hc, Bool.true_and] at h
          obtain ⟨lead, d, rest, rfl, hlead, hd⟩ := ih h
          exact ⟨c :: lead, d, rest, rfl, by simp [hc, hlead], hd⟩

/-- A start of a blank text is blank. -/
theorem isBlankText_of_isPrefix {part cs : List Char} (hpart : part <+: cs)
    (h : isBlankText cs = true) : isBlankText part = true :=
  isBlankText_iff.mpr fun c hc => isBlankText_iff.mp h c (hpart.subset hc)

section Start

variable {lead part rest : List Char} {c : Char}

/-- Only the empty start of a text is blank when its first character is not. -/
theorem eq_nil_of_isBlankText (hc : isBlank c = false) (hpart : part <+: c :: rest)
    (h : isBlankText part = true) : part = [] := by
  cases part with
  | nil => rfl
  | cons d part =>
      obtain ⟨rfl, -⟩ := List.cons_prefix_cons.mp hpart
      simp [hc] at h

/-- A blank start of a text ends before the first character that is not blank. -/
theorem isPrefix_of_isBlankText (hc : isBlank c = false) (hpart : part <+: lead ++ c :: rest)
    (h : isBlankText part = true) : part <+: lead := by
  rcases List.prefix_or_prefix_of_prefix hpart (List.prefix_append lead (c :: rest)) with hle | hge
  · exact hle
  · obtain ⟨tail, rfl⟩ := hge
    rw [List.prefix_append_right_inj] at hpart
    rw [isBlankText_append, Bool.and_eq_true] at h
    rw [eq_nil_of_isBlankText hc hpart h.2, List.append_nil]

end Start

/-! ## Trimming -/

/-- Trimming the start takes blanks away. -/
theorem exists_eq_append_trimStart (cs : List Char) :
    ∃ lead, cs = lead ++ trimStart cs ∧ isBlankText lead = true :=
  ⟨cs.takeWhile isBlank, List.takeWhile_append_dropWhile.symm,
    isBlankText_iff.mpr fun _ hc => List.mem_takeWhile_imp hc⟩

/-- Trimming the end takes blanks away. -/
theorem exists_eq_trimEnd_append (cs : List Char) :
    ∃ trail, cs = trimEnd cs ++ trail ∧ isBlankText trail = true := by
  refine ⟨(cs.reverse.takeWhile isBlank).reverse, ?_, ?_⟩
  · rw [trimEnd, ← List.reverse_append, List.takeWhile_append_dropWhile, List.reverse_reverse]
  · refine isBlankText_iff.mpr fun c hc => ?_
    exact List.mem_takeWhile_imp (List.mem_reverse.mp hc)

/-- **Trimming takes blanks away** at both ends. -/
theorem exists_eq_append_trim (cs : List Char) :
    ∃ lead trail, cs = lead ++ trim cs ++ trail ∧
      isBlankText lead = true ∧ isBlankText trail = true := by
  obtain ⟨lead, hlead, blankLead⟩ := exists_eq_append_trimStart cs
  obtain ⟨trail, htrail, blankTrail⟩ := exists_eq_trimEnd_append (trimStart cs)
  refine ⟨lead, trail, ?_, blankLead, blankTrail⟩
  rw [trim, List.append_assoc, ← htrail, ← hlead]

/-- What trimming leaves is a part of the text. -/
theorem trim_isInfix (cs : List Char) : trim cs <:+: cs := by
  obtain ⟨lead, trail, hcs, -, -⟩ := exists_eq_append_trim cs
  exact ⟨lead, trail, hcs.symm⟩

/-- Trimming neither makes a text blank nor keeps it from being so. -/
@[simp] theorem isBlankText_trim (cs : List Char) : isBlankText (trim cs) = isBlankText cs := by
  obtain ⟨lead, trail, hcs, hlead, htrail⟩ := exists_eq_append_trim cs
  have h := congrArg isBlankText hcs
  rw [isBlankText_append, isBlankText_append, hlead, htrail] at h
  simp [h]

/-- Trimming leaves nothing exactly when the text is blank. -/
theorem trim_eq_nil_iff {cs : List Char} : trim cs = [] ↔ isBlankText cs = true := by
  obtain ⟨lead, hcs, hlead⟩ := exists_eq_append_trimStart cs
  have h := congrArg isBlankText hcs
  rw [isBlankText_append, hlead, Bool.true_and] at h
  rw [trim, trimEnd_eq_nil_iff, h]

/-- What trimming the start leaves begins with a character that is not blank. -/
theorem isBlank_of_trimStart_eq_cons {c : Char} {cs rest : List Char}
    (h : trimStart cs = c :: rest) : isBlank c = false := by
  have hne : cs.dropWhile isBlank ≠ [] := by
    rw [← trimStart, h]
    exact List.cons_ne_nil c rest
  have hhead := List.head_dropWhile_not isBlank hne
  simp only [← trimStart.eq_1, h, List.head_cons] at hhead
  exact hhead

/-- A character that is not blank keeps its place when the end is trimmed. -/
theorem trimEnd_cons {c : Char} (cs : List Char) (hc : isBlank c = false) :
    trimEnd (c :: cs) = c :: trimEnd cs := by
  rw [trimEnd, List.reverse_cons, List.dropWhile_append]
  split
  · rename_i hempty
    rw [trimEnd, List.isEmpty_iff.mp hempty]
    simp [hc]
  · simp [trimEnd]

/-- **Trimming a text** whose first character is not blank trims its end. -/
theorem trim_cons {c : Char} (cs : List Char) (hc : isBlank c = false) :
    trim (c :: cs) = c :: trimEnd cs := by
  rw [trim, trimStart, List.dropWhile_cons, if_neg (by simp [hc]), trimEnd_cons cs hc]

/-- Blanks before a text do not matter for trimming. -/
theorem trim_append_of_isBlankText {lead : List Char} (cs : List Char)
    (h : isBlankText lead = true) : trim (lead ++ cs) = trim cs := by
  rw [trim, trimStart, List.dropWhile_append_of_pos (isBlankText_iff.mp h), ← trimStart, ← trim]

/-- Blanks behind a text do not matter for trimming its end. -/
theorem trimEnd_append_of_isBlankText {trail : List Char} (cs : List Char)
    (h : isBlankText trail = true) : trimEnd (cs ++ trail) = trimEnd cs := by
  have hblank : ∀ c ∈ trail.reverse, isBlank c = true := fun c hc =>
    isBlankText_iff.mp h c (List.mem_reverse.mp hc)
  rw [trimEnd, List.reverse_append, List.dropWhile_append_of_pos hblank, ← trimEnd]

/-- **Blanks around a text** do not matter for trimming. -/
theorem trim_around {lead trail : List Char} (cs : List Char) (hlead : isBlankText lead = true)
    (htrail : isBlankText trail = true) : trim (lead ++ cs ++ trail) = trim cs := by
  rw [List.append_assoc, trim_append_of_isBlankText _ hlead]
  cases hcs : isBlankText cs with
  | true =>
      rw [trim_eq_nil_iff.mpr hcs, trim_eq_nil_iff, isBlankText_append, hcs, htrail]
      rfl
  | false =>
      obtain ⟨front, c, rest, rfl, hfront, hc⟩ := exists_eq_append_cons hcs
      rw [List.append_assoc, List.cons_append, trim_append_of_isBlankText _ hfront,
        trim_append_of_isBlankText _ hfront, trim_cons _ hc, trim_cons _ hc,
        trimEnd_append_of_isBlankText _ htrail]

/-- What trimming leaves begins with a character that is not blank. -/
theorem isBlank_of_trim_eq_cons {c : Char} {cs rest : List Char} (h : trim cs = c :: rest) :
    isBlank c = false := by
  cases hs : trimStart cs with
  | nil => simp [trim, hs, trimEnd] at h
  | cons d tail =>
      have hd := isBlank_of_trimStart_eq_cons hs
      rw [trim, hs, trimEnd_cons tail hd, List.cons.injEq] at h
      exact h.1 ▸ hd

/-- Blanks before a character that is not blank are trimmed away as they are without it. -/
theorem trimStart_append_cons {c : Char} (lead rest : List Char) (hc : isBlank c = false) :
    trimStart (lead ++ c :: rest) = trimStart lead ++ c :: rest := by
  have hkeep : (c :: rest).dropWhile isBlank = c :: rest :=
    List.dropWhile_cons_of_neg (by rw [hc]; exact Bool.false_ne_true)
  rw [trimStart, trimStart, List.dropWhile_append]
  split
  · rename_i hempty
    rw [List.isEmpty_iff.mp hempty, hkeep, List.nil_append]
  · rfl

/-- Trimming the end is trimming the start from the other side. -/
theorem trimEnd_eq_reverse (cs : List Char) : trimEnd cs = (trimStart cs.reverse).reverse := rfl

/-- Blanks behind a character that is not blank are trimmed away as they are without it. -/
theorem trimEnd_append_cons {c : Char} (front trail : List Char) (hc : isBlank c = false) :
    trimEnd (front ++ c :: trail) = front ++ c :: trimEnd trail := by
  rw [trimEnd_eq_reverse, List.reverse_append, List.reverse_cons, List.append_assoc,
    List.singleton_append, trimStart_append_cons _ _ hc, List.reverse_append, List.reverse_cons,
    List.reverse_reverse, ← trimEnd_eq_reverse, List.append_assoc, List.singleton_append]

/-- **A text that begins and ends with characters that are not blank.** -/
def Solid (cs : List Char) : Prop :=
  (∃ c tail, cs = c :: tail ∧ isBlank c = false) ∧ ∃ front c, cs = front ++ [c] ∧ isBlank c = false

/-- **What stands around a solid text** is trimmed as it is without it, and the text is not. -/
theorem Solid.trim_append {cs : List Char} (h : Solid cs) (lead trail : List Char) :
    trim (lead ++ cs ++ trail) = trimStart lead ++ cs ++ trimEnd trail := by
  obtain ⟨⟨c, tail, hstart, hc⟩, ⟨front, d, hend, hd⟩⟩ := h
  have hlead : trimStart (lead ++ cs ++ trail) = trimStart lead ++ cs ++ trail := by
    rw [hstart, List.append_assoc, List.cons_append, trimStart_append_cons _ _ hc,
      ← List.cons_append, ← List.append_assoc]
  have htrail : trimEnd (trimStart lead ++ cs ++ trail) = trimStart lead ++ cs ++ trimEnd trail := by
    rw [hend, ← List.append_assoc, List.append_assoc _ [d], List.singleton_append,
      trimEnd_append_cons _ _ hd, List.append_assoc _ [d], List.singleton_append]
  rw [trim, hlead, htrail]

/-- What trimming the end leaves ends with a character that is not blank. -/
theorem isBlank_of_trimEnd_eq_concat {c : Char} {cs front : List Char}
    (h : trimEnd cs = front ++ [c]) : isBlank c = false := by
  rw [trimEnd_eq_reverse, List.reverse_eq_iff, List.reverse_concat] at h
  exact isBlank_of_trimStart_eq_cons h

/-- Nothing is trimmed from a solid text. -/
theorem Solid.trim_eq {cs : List Char} (h : Solid cs) : trim cs = cs := by
  simpa [trimStart, trimEnd] using h.trim_append [] []

/-- A solid text has a character. -/
theorem Solid.ne_nil {cs : List Char} (h : Solid cs) : cs ≠ [] := by
  obtain ⟨⟨c, tail, rfl, -⟩, -⟩ := h
  exact List.cons_ne_nil c tail

/-- **A text with solid ends is solid**, whatever stands between them. -/
theorem Solid.append {xs ys : List Char} (hx : Solid xs) (hy : Solid ys) (between : List Char) :
    Solid (xs ++ between ++ ys) := by
  obtain ⟨⟨c, tail, rfl, hc⟩, -⟩ := hx
  obtain ⟨-, ⟨front, d, rfl, hd⟩⟩ := hy
  exact ⟨⟨c, tail ++ between ++ (front ++ [d]), by simp, hc⟩,
    ⟨c :: tail ++ between ++ front, d, by simp, hd⟩⟩

/-- Trimming the end twice is trimming it once. -/
@[simp] theorem trimEnd_trimEnd (cs : List Char) : trimEnd (trimEnd cs) = trimEnd cs := by
  rw [trimEnd, trimEnd, List.reverse_reverse, List.dropWhile_idempotent]

/-- There are no blanks at the start of a text that was trimmed. -/
@[simp] theorem trimStart_trim (cs : List Char) : trimStart (trim cs) = trim cs := by
  cases h : trim cs with
  | nil => rfl
  | cons c rest =>
      rw [trimStart, List.dropWhile_cons_of_neg (by rw [isBlank_of_trim_eq_cons h]; decide)]

/-- **Trimming twice** is trimming once. -/
@[simp] theorem trim_trim (cs : List Char) : trim (trim cs) = trim cs := by
  rw [trim, trimStart_trim, trim, trimEnd_trimEnd]

/-- **What trimming leaves is solid**, unless it is nothing. -/
theorem solid_trim {cs : List Char} (h : trim cs ≠ []) : Solid (trim cs) := by
  refine ⟨?_, ?_⟩
  · obtain ⟨c, tail, hcons⟩ := List.exists_cons_of_ne_nil h
    exact ⟨c, tail, hcons, isBlank_of_trim_eq_cons hcons⟩
  · obtain ⟨front, c, hconcat⟩ := (List.eq_nil_or_concat _).resolve_left h
    rw [List.concat_eq_append] at hconcat
    exact ⟨front, c, hconcat, isBlank_of_trimEnd_eq_concat hconcat⟩

/-- A text without blanks is left by trimming. -/
theorem trim_eq_self {cs : List Char} (h : ∀ c ∈ cs, isBlank c = false) : trim cs = cs := by
  have hkeep : ∀ ds : List Char, (∀ d ∈ ds, isBlank d = false) → trimStart ds = ds := by
    intro ds hds
    cases ds with
    | nil => rfl
    | cons d ds =>
        apply List.dropWhile_cons_of_neg
        rw [hds d List.mem_cons_self]
        exact Bool.false_ne_true
  rw [trim, hkeep cs h, trimEnd_eq_reverse, hkeep _ fun d hd => h d (List.mem_reverse.mp hd),
    List.reverse_reverse]

/-- Nothing is left of a string that holds blanks only. -/
theorem trimmed_eq_empty_iff {s : String} : trimmed s = "" ↔ blank s = true := by
  rw [trimmed, String.ofList_eq_empty_iff, trim_eq_nil_iff, blank]

/-- A text that was trimmed is left by trimming. -/
@[simp] theorem trimmed_trimmed (s : String) : trimmed (trimmed s) = trimmed s := by
  rw [trimmed, trimmed, String.toList_ofList, trim_trim]

/-! ## The last character of a class -/

section Last

variable {p : Char → Bool}

/-- The part of a text up to a character of the class behind which no other one stands. -/
theorem upToLast_append_cons {c : Char} {ys : List Char} (xs : List Char) (hc : p c = true)
    (hys : ∀ y ∈ ys, p y = false) : upToLast p (xs ++ c :: ys) = xs ++ [c] := by
  have hrev : ∀ y ∈ ys.reverse, (!p y) = true := fun y hy => by
    simp [hys y (List.mem_reverse.mp hy)]
  rw [upToLast, List.reverse_append, List.reverse_cons, List.append_assoc,
    List.dropWhile_append_of_pos hrev]
  simp [hc]

/-- The part up to the last character of a class is empty, or it ends with that character. -/
theorem upToLast_cases (p : Char → Bool) (cs : List Char) :
    (upToLast p cs = [] ∧ ∀ c ∈ cs, p c = false) ∨
      ∃ xs c ys, cs = xs ++ c :: ys ∧ p c = true ∧ (∀ y ∈ ys, p y = false) ∧
        upToLast p cs = xs ++ [c] := by
  induction cs with
  | nil => simp [upToLast]
  | cons d cs ih =>
      rcases ih with ⟨-, hnone⟩ | ⟨xs, c, ys, rfl, hc, hys, -⟩
      · cases hd : p d with
        | false =>
            have hall : ∀ c ∈ d :: cs, p c = false := by simpa [hd] using hnone
            refine Or.inl ⟨?_, hall⟩
            have hrev : ∀ c ∈ (d :: cs).reverse, (!p c) = true := fun c hmem => by
              simp only [hall c (List.mem_reverse.mp hmem), Bool.not_false]
            rw [upToLast, List.dropWhile_eq_nil_iff.mpr hrev, List.reverse_nil]
        | true =>
            refine Or.inr ⟨[], d, cs, rfl, hd, hnone, ?_⟩
            exact upToLast_append_cons [] hd hnone
      · refine Or.inr ⟨d :: xs, c, ys, rfl, hc, hys, ?_⟩
        exact upToLast_append_cons (d :: xs) hc hys

/-- The part up to the last character of a class is a start of the text. -/
theorem upToLast_isPrefix (p : Char → Bool) (cs : List Char) : upToLast p cs <+: cs := by
  rcases upToLast_cases p cs with ⟨hnil, -⟩ | ⟨xs, c, ys, hcs, -, -, hup⟩
  · rw [hnil]
    exact List.nil_prefix
  · rw [hup, hcs]
    exact ⟨ys, by simp⟩

/-- A start that ends with a character of the class goes no further than the last one. -/
theorem prefix_upToLast {c : Char} (xs ys : List Char) (hc : p c = true) :
    xs ++ [c] <+: upToLast p (xs ++ c :: ys) := by
  rcases upToLast_cases p ys with ⟨-, hnone⟩ | ⟨zs, d, ws, rfl, hd, hws, -⟩
  · rw [upToLast_append_cons xs hc hnone]
  · have hcs : xs ++ c :: (zs ++ d :: ws) = xs ++ c :: zs ++ d :: ws := by simp
    rw [hcs, upToLast_append_cons _ hd hws]
    exact ⟨zs ++ [d], by simp⟩

/-- **The part before the last character of a class**; empty when there is none. -/
def beforeLast (p : Char → Bool) (cs : List Char) : List Char := (upToLast p cs).dropLast

/-- What comes before the last character of a class, that character, and what comes after. -/
theorem beforeLast_cases (p : Char → Bool) (cs : List Char) :
    (beforeLast p cs = [] ∧ ∀ c ∈ cs, p c = false) ∨
      ∃ c ys, cs = beforeLast p cs ++ c :: ys ∧ p c = true ∧ ∀ y ∈ ys, p y = false := by
  rcases upToLast_cases p cs with ⟨hnil, hnone⟩ | ⟨xs, c, ys, hcs, hc, hys, hup⟩
  · exact Or.inl ⟨by rw [beforeLast, hnil, List.dropLast_nil], hnone⟩
  · refine Or.inr ⟨c, ys, ?_, hc, hys⟩
    rw [beforeLast, hup, List.dropLast_concat, hcs]

/-- What comes before some character of the class comes before the last one. -/
theorem prefix_beforeLast {c : Char} (xs ys : List Char) (hc : p c = true) :
    xs <+: beforeLast p (xs ++ c :: ys) := by
  obtain ⟨zs, hzs⟩ := prefix_upToLast xs ys hc
  rw [beforeLast, ← hzs, List.append_assoc, List.dropLast_append_of_ne_nil (by simp)]
  exact List.prefix_append _ _

/-- The part before the last character of a class is a start of the text. -/
theorem beforeLast_isPrefix (p : Char → Bool) (cs : List Char) : beforeLast p cs <+: cs :=
  (List.dropLast_prefix _).trans (upToLast_isPrefix p cs)

end Last

end Courseware.Text
