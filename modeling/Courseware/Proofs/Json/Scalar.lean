import Mathlib.Data.List.Basic
import Mathlib.Tactic.SplitIfs
import Courseware.Json.Printer
import Courseware.Proofs.Json.Reader
import Courseware.Proofs.Json.Spelling

/-! # Reading written numbers and texts

A whole number of 64 bits is read back from its digits (`Number.readSigned_render`), and a text from
its escaped characters (`reads_quotedText`). -/

namespace Courseware.Json

/-! ## Whole numbers -/

namespace Number

/-- **A whole number that can be read**: one of 64 bits, with or without a sign. -/
def InRange (n : Int) : Prop := -(minInteger : Int) ≤ n ∧ n ≤ (maxInteger : Int)

/-- Digits make a number no smaller. -/
theorem le_ofDigitChars (ds : List Char) (n : Nat) : n ≤ Nat.ofDigitChars 10 ds n := by
  induction ds generalizing n with
  | nil => exact Nat.le_of_eq Nat.ofDigitChars_nil.symm
  | cons d ds ih =>
      rw [Nat.ofDigitChars_cons]
      exact Nat.le_trans (by omega) (ih _)

/-- **Digits are read** one after the other. -/
theorem wholeDigits_digits {ds : List Char} (hds : ∀ d ∈ ds, d.isDigit = true) ( negative : Bool)
    (n : Nat) (hle : Nat.ofDigitChars 10 ds n ≤ maxInteger) :
    wholeDigits negative n ds = .ok (whole negative (Nat.ofDigitChars 10 ds n), []) := by
  induction ds generalizing n with
  | nil => rfl
  | cons d ds ih =>
      rw [Nat.ofDigitChars_cons] at hle ⊢
      have hpush : push n d ≤ maxInteger := Nat.le_trans (le_ofDigitChars ds _) hle
      rw [wholeDigits, if_pos (hds d List.mem_cons_self), if_pos hpush]
      exact ih (fun c hc => hds c (List.mem_cons_of_mem d hc)) _ hle

/-- The digits of a number are digits. -/
theorem isDigit_of_mem {n : Nat} {d : Char} (h : d ∈ Nat.toDigits 10 n) : d.isDigit = true :=
  Nat.isDigit_of_mem_toDigits (by decide) (by decide) h

/-- Only zero begins with a zero. -/
theorem eq_zero_of_head? {n : Nat} (h : (Nat.toDigits 10 n).head? = some '0') : n = 0 := by
  induction n using Nat.base_induction 10 (by decide) with
  | single m hm =>
      rw [Nat.toDigits_of_lt_base hm] at h
      have hdigit : ∀ k < 10, Nat.digitChar k = '0' → k = 0 := by decide
      exact hdigit m hm (by simpa using h)
  | digit m k hk hm ih =>
      rw [← Nat.toDigits_append_toDigits (by decide) hm hk,
        List.head?_append_of_ne_nil _ Nat.toDigits_ne_nil] at h
      exact absurd (ih h) (Nat.pos_iff_ne_zero.mp hm)

/-- **The digits of a number are read back.** -/
theorem read_toDigits {n : Nat} (h : n ≤ maxInteger) ( negative : Bool) :
    read negative (Nat.toDigits 10 n) = .ok (whole negative n, []) := by
  obtain ⟨c, ds, hdigits⟩ := List.exists_cons_of_ne_nil (Nat.toDigits_ne_nil (n := n) (b := 10))
  have hds : ∀ d ∈ ds, d.isDigit = true := fun d hd =>
    isDigit_of_mem (hdigits ▸ List.mem_cons_of_mem c hd)
  have hc : c.isDigit = true := isDigit_of_mem (hdigits ▸ List.mem_cons_self)
  have hvalue : Nat.ofDigitChars 10 ds (digit c) = n := by
    have hall := Nat.ofDigitChars_ten_toDigits (n := n)
    rw [hdigits, Nat.ofDigitChars_cons, Nat.mul_zero, Nat.zero_add] at hall
    exact hall
  -- A leading zero is the only digit, and no digit follows it.
  have hzero : c = '0' → ∀ d ∈ ds.head?, d.isDigit = false := by
    rintro rfl
    obtain rfl : n = 0 := eq_zero_of_head? (by rw [hdigits, List.head?_cons])
    rw [Nat.toDigits_zero] at hdigits
    obtain ⟨-, rfl⟩ := List.cons.inj hdigits
    simp
  have hread := wholeDigits_digits hds negative (digit c) (hvalue.symm ▸ h)
  rw [hdigits, read_cons hc hzero, hread, hvalue]

/-- The text of a number that is not negative has its digits. -/
theorem render_ofNat (n : Nat) : (Number.integer (.ofNat n)).render = Nat.toDigits 10 n :=
  Nat.toList_repr

/-- The text of a negative number has a minus sign and the digits of its absolute value. -/
theorem render_negSucc (n : Nat) :
    (Number.integer (.negSucc n)).render = '-' :: Nat.toDigits 10 (n + 1) := by
  show ("-" ++ Nat.repr (n + 1)).toList = '-' :: Nat.toDigits 10 (n + 1)
  rw [String.toList_append, Nat.toList_repr]
  rfl

/-- A whole number begins with a minus sign or a digit. -/
theorem exists_render_eq_cons (n : Int) :
    ∃ c tail, (Number.integer n).render = c :: tail ∧ (c = '-' ∨ c.isDigit = true) := by
  cases n with
  | ofNat n =>
      obtain ⟨c, tail, hdigits⟩ :=
        List.exists_cons_of_ne_nil (Nat.toDigits_ne_nil (n := n) (b := 10))
      exact ⟨c, tail, (render_ofNat n).trans hdigits,
        Or.inr (isDigit_of_mem (hdigits ▸ List.mem_cons_self))⟩
  | negSucc n => exact ⟨'-', Nat.toDigits 10 (n + 1), render_negSucc n, Or.inl rfl⟩

/-- **A whole number is read back.** -/
theorem readSigned_render {n : Int} (h : InRange n) :
    readSigned (Number.integer n).render = .ok (.integer n, []) := by
  obtain ⟨hmin, hmax⟩ := h
  cases n with
  | ofNat n =>
      have hread := read_toDigits (Int.ofNat_le.mp hmax) false
      rw [render_ofNat, readSigned.eq_def]
      split
      · next tail hcons =>
          -- A minus sign is no digit.
          exact absurd (isDigit_of_mem (hcons ▸ List.mem_cons_self)) (by decide)
      · exact hread
  | negSucc n =>
      have hle : n + 1 ≤ minInteger := by omega
      have hread := read_toDigits (Nat.le_trans hle (by decide)) true
      rw [render_negSucc, readSigned, hread, whole, if_neg Bool.noConfusion, if_neg (by omega)]
      rfl

end Number

/-! ## Texts -/

/-- Two hexadecimal digits are enough for a control character. -/
theorem hexValue?_hexDigits : ∀ n < 0x20, ∃ c d, hexDigits 4 n = ['0', '0', c, d] ∧
    hexValue? '0' '0' c d = some n := by
  have hall : ∀ n < 0x20, hexDigits 4 n = ['0', '0', (n / 16).digitChar, (n % 16).digitChar] ∧
      hexValue? '0' '0' (n / 16).digitChar (n % 16).digitChar = some n := by
    decide
  exact fun n hn => ⟨_, _, hall n hn⟩

/-- **A character is read back** from what it is escaped to. -/
theorem textFrom_escaped (done rest : List Char) (c : Char) :
    textFrom done (escaped c ++ rest) = textFrom (c :: done) rest := by
  rw [escaped]
  split_ifs with hquote hbackslash hc hc hc hc hc hcontrol
  · rw [hquote]
    rfl
  · rw [hbackslash]
    rfl
  -- Five control characters have an escape of their own, the others are written as numbers.
  iterate 5
    · rw [hc]
      rfl
  · obtain ⟨x, y, hdigits, hvalue⟩ := hexValue?_hexDigits c.toNat hcontrol
    have hlow : isLowHalf c.toNat = false := by
      simp only [isLowHalf, Bool.and_eq_false_iff, decide_eq_false_iff_not]
      omega
    have hhigh : isHighHalf c.toNat = false := by
      simp only [isHighHalf, Bool.and_eq_false_iff, decide_eq_false_iff_not]
      omega
    rw [hdigits]
    simp only [List.cons_append, List.nil_append]
    rw [textFrom]
    simp only [hvalue, hlow, hhigh, Bool.false_eq_true, if_false, Char.ofNat_toNat]
  · rw [List.singleton_append, textFrom, if_neg hcontrol]
    · exact hquote
    all_goals intros; exact hbackslash ‹c = '\\'›

/-- Characters are read back one after the other. -/
theorem textFrom_flatMap_escaped (done cs rest : List Char) :
    textFrom done (cs.flatMap escaped ++ '"' :: rest) = .ok (done.reverse ++ cs, rest) := by
  induction cs generalizing done with
  | nil => rw [List.flatMap_nil, List.nil_append, textFrom, List.append_nil]
  | cons c cs ih =>
      rw [List.flatMap_cons, List.append_assoc, textFrom_escaped, ih, List.reverse_cons,
        List.append_assoc, List.singleton_append]

/-- **A text is read back** up to its closing quote. -/
theorem reads_quotedText (s : String) (rest : List Char) :
    Reads quotedText (s.toList.flatMap escaped ++ '"' :: rest) s rest := by
  have htext : text (s.toList.flatMap escaped ++ '"' :: rest) = .ok (s.toList, rest) :=
    textFrom_flatMap_escaped [] s.toList rest
  have hread := reads_quotedText_of_text htext
  rwa [String.ofList_toList] at hread

end Courseware.Json
