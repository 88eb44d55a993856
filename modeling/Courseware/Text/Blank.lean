/-! # Blank characters, trimming and words

A character is **blank** when it has the Unicode property White_Space (`isBlank`): 25 characters in
ten ranges. On that class rest `trim`, which drops the blanks at both ends of a text, and `words`,
the maximal runs of characters that are not blank. -/

namespace Courseware.Text

/-- The characters with the Unicode property White_Space, as closed ranges of code points in
ascending order (unchanged since Unicode 6.3). -/
def blankRanges : List (Nat × Nat) :=
  [(0x09, 0x0D), (0x20, 0x20), (0x85, 0x85), (0xA0, 0xA0), (0x1680, 0x1680), (0x2000, 0x200A),
   (0x2028, 0x2029), (0x202F, 0x202F), (0x205F, 0x205F), (0x3000, 0x3000)]

/-- Whether a character is blank. -/
def isBlank (c : Char) : Bool :=
  blankRanges.any fun r => decide (r.1 ≤ c.toNat) && decide (c.toNat ≤ r.2)

/-- A text of blanks only; the empty text is one. -/
def isBlankText (cs : List Char) : Bool := cs.all isBlank

/-- Drop the blanks at the start. -/
def trimStart (cs : List Char) : List Char := cs.dropWhile isBlank

/-- Drop the blanks at the end. -/
def trimEnd (cs : List Char) : List Char := (cs.reverse.dropWhile isBlank).reverse

/-- Drop the blanks at both ends. -/
def trim (cs : List Char) : List Char := trimEnd (trimStart cs)

/-- The words of a text: its maximal runs of characters that are not blank, in order. -/
def words (cs : List Char) : List (List Char) :=
  (cs.splitOnP isBlank).filter fun w => !w.isEmpty

@[simp] theorem isBlankText_nil : isBlankText [] = true := rfl

@[simp] theorem isBlankText_cons (c : Char) (cs : List Char) :
    isBlankText (c :: cs) = (isBlank c && isBlankText cs) := rfl

/-- Trimming the start leaves nothing exactly when the text is blank. -/
theorem trimStart_eq_nil_iff {cs : List Char} : trimStart cs = [] ↔ isBlankText cs = true := by
  induction cs with
  | nil => simp [trimStart]
  | cons c cs ih =>
    rw [trimStart] at *
    by_cases h : isBlank c = true <;> simp [h, ih]

/-- Trimming the end leaves nothing exactly when the text is blank. -/
theorem trimEnd_eq_nil_iff {cs : List Char} : trimEnd cs = [] ↔ isBlankText cs = true := by
  have h : trimEnd cs = [] ↔ trimStart cs.reverse = [] := by simp [trimEnd, trimStart]
  rw [h, trimStart_eq_nil_iff]
  simp [isBlankText]

/-- The text that is left of `s` after trimming both ends. -/
def trimmed (s : String) : String := String.ofList (trim s.toList)

/-- Whether a string holds blanks only. -/
def blank (s : String) : Bool := isBlankText s.toList

end Courseware.Text
