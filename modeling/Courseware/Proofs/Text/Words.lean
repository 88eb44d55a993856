import Courseware.Proofs.Text.Trim

/-! # Words next to blanks

A blank divides the words of a text (`words_append_cons`). So the words of two texts in a row are
those of the first and then those of the second when the first **ends blank** (`EndsBlank`), and
blanks around a text are no matter (`words_trim`). -/

namespace Courseware.Text

variable {xs ys cs : List Char} {c : Char}

@[simp] theorem words_nil : words [] = [] := rfl

/-- **A blank divides words.** -/
theorem words_append_cons (xs ys : List Char) (hc : isBlank c = true) :
    words (xs ++ c :: ys) = words xs ++ words ys := by
  rw [words, List.splitOnP_append_cons xs ys hc, List.filter_append]
  rfl

/-- Blanks before a text are no matter. -/
theorem words_append_left (h : isBlankText xs = true) (ys : List Char) :
    words (xs ++ ys) = words ys := by
  induction xs with
  | nil => rfl
  | cons c xs ih =>
      rw [isBlankText_cons, Bool.and_eq_true] at h
      rw [List.cons_append, ← ih h.2]
      exact words_append_cons [] (xs ++ ys) h.1

/-- A blank text has no words. -/
theorem words_of_isBlankText (h : isBlankText cs = true) : words cs = [] := by
  rw [← List.append_nil cs, words_append_left h, words_nil]

/-- Blanks behind a text are no matter. -/
theorem words_append_right (xs : List Char) (h : isBlankText ys = true) :
    words (xs ++ ys) = words xs := by
  cases ys with
  | nil => rw [List.append_nil]
  | cons c ys =>
      rw [isBlankText_cons, Bool.and_eq_true] at h
      rw [words_append_cons xs ys h.1, words_of_isBlankText h.2, List.append_nil]

/-- **Trimming keeps the words.** -/
@[simp] theorem words_trim (cs : List Char) : words (trim cs) = words cs := by
  obtain ⟨lead, trail, hcs, hlead, htrail⟩ := exists_eq_append_trim cs
  rw [congrArg words hcs, words_append_right _ htrail, words_append_left hlead]

/-! ## Texts that end blank -/

/-- **A text that ends blank**: it is empty, or its last character is blank. -/
def EndsBlank (cs : List Char) : Prop := ∀ c ∈ cs.getLast?, isBlank c = true

/-- The empty text ends blank. -/
theorem endsBlank_nil : EndsBlank [] := nofun

/-- A text with a blank at its end ends blank. -/
theorem endsBlank_concat (xs : List Char) : EndsBlank (xs ++ [c]) ↔ isBlank c = true := by
  simp [EndsBlank]

/-- Texts that end blank do so in a row. -/
theorem EndsBlank.append (hx : EndsBlank xs) (hy : EndsBlank ys) : EndsBlank (xs ++ ys) := by
  rcases List.eq_nil_or_concat ys with rfl | ⟨front, c, rfl⟩
  · rwa [List.append_nil]
  · rw [List.concat_eq_append, endsBlank_concat] at hy
    rwa [List.concat_eq_append, ← List.append_assoc, endsBlank_concat]

/-- **The words of two texts in a row**, the first of which ends blank. -/
theorem EndsBlank.words_append (h : EndsBlank xs) (ys : List Char) :
    words (xs ++ ys) = words xs ++ words ys := by
  rcases List.eq_nil_or_concat xs with rfl | ⟨front, c, rfl⟩
  · rfl
  · rw [List.concat_eq_append, endsBlank_concat] at h
    rw [List.concat_eq_append, List.append_assoc, List.singleton_append, words_append_cons _ _ h,
      words_append_cons _ _ h, words_nil, List.append_nil]

end Courseware.Text
