import Mathlib.Data.List.TakeWhile
import Courseware.Json.Parser

/-! # Numbers, words and texts are read the same before every rest

What a reader takes for a number or a word has letters, digits, signs and points alone
(`isScalar`), and it takes the same before every rest that does not go on with such a character
(`Stops`): each of the functions that read a number takes it in this way (`Takes`). A quoted text
stays on one line and is read the same before every rest whatever (`TakesText`). -/

namespace Courseware.Json

/-- The characters that numbers and words are made of. -/
def isScalar (c : Char) : Bool := c.isAlphanum || c == '-' || c == '+' || c == '.'

/-- **Where a number or a word stops**: what follows does not go on with a character of these. -/
def Stops (rest : List Char) : Prop := ∀ c ∈ rest.head?, isScalar c = false

/-- Numbers and words stop at the end of a text. -/
theorem stops_nil : Stops [] := nofun

/-- Numbers and words stop before another character. -/
theorem stops_cons {c : Char} (rest : List Char) : Stops (c :: rest) ↔ isScalar c = false := by
  simp [Stops]

/-! ## Numbers -/

namespace Number

variable { negative downward : Bool} {significand value : Nat} {start : Int}
  {c : Char} {cs rest : List Char} {n : Number}

/-- Digits are characters of numbers. -/
theorem isScalar_of_isDigit (h : c.isDigit = true) : isScalar c = true := by
  simp [isScalar, Char.isAlphanum, h]

/-- No digit follows where a number stops. -/
theorem isDigit_of_stops (h : Stops (c :: rest)) : c.isDigit = false := by
  by_contra hc
  have hscalar := isScalar_of_isDigit (by simpa using hc)
  rw [(stops_cons rest).mp h] at hscalar
  cases hscalar

/-- Neither a point nor a mark of an exponent follows where a number stops. -/
theorem ne_of_stops (h : Stops (c :: rest)) : c ≠ '.' ∧ c ≠ 'e' ∧ c ≠ 'E' := by
  have hscalar := (stops_cons rest).mp h
  refine ⟨?_, ?_, ?_⟩ <;> rintro rfl <;> revert hscalar <;> decide

/-- **What a function takes for a number**: the start of a text, which has characters of numbers
alone and is read the same before every rest where a number stops. -/
def Takes (f : List Char → Result) (cs : List Char) (n : Number) (rest : List Char) : Prop :=
  ∃ used, cs = used ++ rest ∧ (∀ c ∈ used, isScalar c = true) ∧
    ∀ other, Stops other → f (used ++ other) = .ok (n, other)

/-- Nothing is taken. -/
theorem Takes.nothing {f : List Char → Result} (hf : ∀ other, Stops other → f other = .ok (n, other))
    (cs : List Char) : Takes f cs n cs :=
  ⟨[], rfl, nofun, hf⟩

/-- A character is taken, and then what another function takes. -/
theorem Takes.cons {f g : List Char → Result} (hc : isScalar c = true)
    (hf : ∀ other, f (c :: other) = g other) (h : Takes g cs n rest) : Takes f (c :: cs) n rest := by
  obtain ⟨used, rfl, hused, hread⟩ := h
  exact ⟨c :: used, rfl, List.forall_mem_cons.mpr ⟨hc, hused⟩, fun other hother =>
    (hf (used ++ other)).trans (hread other hother)⟩

/-- Finishing a number does not look at the rest. -/
theorem finish_of_finish (h : finish negative significand start cs = .ok (n, rest))
    (other : List Char) : finish negative significand start other = .ok (n, other) := by
  unfold finish at h ⊢
  split at h
  · cases h
    rfl
  · cases h

/-- A number that is finished takes nothing more. -/
theorem Takes.finish {f : List Char → Result}
    (hf : ∀ other, Stops other → f other = finish negative significand start other)
    (h : finish negative significand start cs = .ok (n, rest)) : Takes f cs n rest := by
  obtain rfl := length_of_finish h
  exact .nothing (fun other hother => (hf other hother).trans (finish_of_finish h other)) _

/-- What a function takes that agrees with another one. -/
theorem Takes.congr {f g : List Char → Result} (hstop : ∀ other, Stops other → f other = g other)
    (hcons : ∀ tail, f (c :: tail) = g (c :: tail)) (h : Takes g (c :: cs) n rest) :
    Takes f (c :: cs) n rest := by
  obtain ⟨used, hcs, hused, hread⟩ := h
  refine ⟨used, hcs, hused, fun other hother => ?_⟩
  rw [← hread other hother]
  cases used with
  | nil => exact hstop other hother
  | cons d used =>
      obtain ⟨rfl, -⟩ := List.cons.inj hcs
      exact hcons (used ++ other)

/-- There are no digits to drop where a number stops. -/
theorem dropDigits_of_stops (h : Stops cs) : cs.dropWhile Char.isDigit = cs := by
  cases cs with
  | nil => rfl
  | cons c cs =>
      exact List.dropWhile_cons_of_neg (by rw [isDigit_of_stops h]; exact Bool.false_ne_true)

/-- Digits may be dropped before something is taken. -/
theorem Takes.dropDigits {g : List Char → Result} (h : Takes g (cs.dropWhile Char.isDigit) n rest) :
    Takes (fun ds => g (ds.dropWhile Char.isDigit)) cs n rest := by
  induction cs with
  | nil =>
      obtain ⟨used, hcs, hused, hread⟩ := h
      obtain ⟨rfl, rfl⟩ := List.append_eq_nil_iff.mp hcs.symm
      exact .nothing (fun other hother => by rw [dropDigits_of_stops hother]; exact hread other hother) []
  | cons c cs ih =>
      by_cases hc : c.isDigit = true
      · rw [List.dropWhile_cons_of_pos hc] at h
        exact .cons (isScalar_of_isDigit hc) (fun _ => by rw [List.dropWhile_cons_of_pos hc]) (ih h)
      · rw [List.dropWhile_cons_of_neg hc] at h
        exact .congr (fun _ hother => by rw [dropDigits_of_stops hother])
          (fun _ => by rw [List.dropWhile_cons_of_neg hc]) h

/-- The digits of an exponent end where a number stops. -/
theorem exponentDigits_of_stops (h : Stops cs) :
    exponentDigits negative downward significand start value cs =
      finish negative significand (if downward then start - value else start + value) cs := by
  cases cs with
  | nil => rfl
  | cons c cs => rw [exponentDigits, isDigit_of_stops h, if_neg Bool.false_ne_true]

/-- The digits of an exponent are taken. -/
theorem takes_exponentDigits
    (h : exponentDigits negative downward significand start value cs = .ok (n, rest)) :
    Takes (exponentDigits negative downward significand start value) cs n rest := by
  induction cs generalizing value with
  | nil => exact .finish (fun _ => exponentDigits_of_stops) h
  | cons c cs ih =>
      rw [exponentDigits] at h
      split at h
      · rename_i hc
        split at h
        · rename_i hle
          exact .cons (isScalar_of_isDigit hc)
            (fun _ => by rw [exponentDigits, if_pos hc, if_pos hle]) (ih h)
        · -- Such an exponent makes the number zero, and the digits behind are dropped.
          rename_i hlong
          split at h
          · cases h
          · rename_i hsmall
            cases h
            exact .cons (isScalar_of_isDigit hc)
              (fun _ => by rw [exponentDigits, if_pos hc, if_neg hlong, if_neg hsmall])
              (Takes.dropDigits (.nothing (fun _ _ => rfl) _))
      · exact .finish (fun _ => exponentDigits_of_stops) h

/-- An exponent is taken from its first digit on. -/
theorem takes_exponentStart
    (h : exponentStart negative downward significand start cs = .ok (n, rest)) :
    Takes (exponentStart negative downward significand start) cs n rest := by
  cases cs with
  | nil => cases h
  | cons c cs =>
      rw [exponentStart] at h
      split at h
      · rename_i hc
        exact .cons (isScalar_of_isDigit hc) (fun _ => by rw [exponentStart, if_pos hc])
          (takes_exponentDigits h)
      · cases h

/-- An exponent that begins with a digit has no sign. -/
theorem exponent_of_isDigit (hc : c.isDigit = true) (cs : List Char) :
    exponent negative significand start (c :: cs) =
      exponentStart negative false significand start (c :: cs) := by
  rw [exponent.eq_def]
  split
  · rename_i heq
    cases heq
    cases hc
  · rename_i heq
    cases heq
    cases hc
  · rfl

/-- An exponent is taken with its sign. -/
theorem takes_exponent (h : exponent negative significand start cs = .ok (n, rest)) :
    Takes (exponent negative significand start) cs n rest := by
  rw [exponent.eq_def] at h
  split at h
  · exact .cons rfl (fun _ => rfl) (takes_exponentStart h)
  · exact .cons rfl (fun _ => rfl) (takes_exponentStart h)
  · cases cs with
    | nil => cases h
    | cons c cs =>
        rw [exponentStart] at h
        split at h
        · rename_i hc
          refine .cons (isScalar_of_isDigit hc) (fun other => ?_) (takes_exponentDigits h)
          rw [exponent_of_isDigit hc, exponentStart, if_pos hc]
        · cases h

/-- There is no exponent where a number stops. -/
theorem exponentOrEnd_of_stops (h : Stops cs) :
    exponentOrEnd negative significand start cs = finish negative significand start cs := by
  rw [exponentOrEnd.eq_def]
  split
  · exact absurd rfl (ne_of_stops h).2.1
  · exact absurd rfl (ne_of_stops h).2.2
  · rfl

/-- An exponent is taken with its mark. -/
theorem takes_exponentOrEnd (h : exponentOrEnd negative significand start cs = .ok (n, rest)) :
    Takes (exponentOrEnd negative significand start) cs n rest := by
  rw [exponentOrEnd.eq_def] at h
  split at h
  · exact .cons rfl (fun _ => rfl) (takes_exponent h)
  · exact .cons rfl (fun _ => rfl) (takes_exponent h)
  · exact .finish (fun _ => exponentOrEnd_of_stops) h

/-- The digits after a point end where a number stops. -/
theorem fractionDigits_of_stops (h : Stops cs) :
    fractionDigits negative significand start cs = finish negative significand start cs := by
  cases cs with
  | nil => rfl
  | cons c cs =>
      rw [fractionDigits, isDigit_of_stops h, if_neg Bool.false_ne_true, exponentOrEnd_of_stops h]

/-- A digit after a point is taken, if those behind it are. -/
theorem takes_fractionDigit (hc : c.isDigit = true)
    (hcs : ∀ {significand start n rest}, fractionDigits negative significand start cs = .ok (n, rest) →
      Takes (fractionDigits negative significand start) cs n rest)
    (h : fractionDigits negative significand start (c :: cs) = .ok (n, rest)) :
    Takes (fun other => fractionDigits negative significand start (c :: other)) cs n rest := by
  simp only [fractionDigits, if_pos hc, List.dropWhile_cons_of_pos hc] at h ⊢
  by_cases hle : push significand c ≤ maxInteger
  · simp only [if_pos hle] at h ⊢
    exact hcs h
  · -- Digits that the significand has no room for are dropped.
    simp only [if_neg hle] at h ⊢
    exact (takes_exponentOrEnd h).dropDigits

/-- The digits after a point are taken. -/
theorem takes_fractionDigits (h : fractionDigits negative significand start cs = .ok (n, rest)) :
    Takes (fractionDigits negative significand start) cs n rest := by
  induction cs generalizing significand start n rest with
  | nil => exact .finish (fun _ => fractionDigits_of_stops) h
  | cons c cs ih =>
      by_cases hc : c.isDigit = true
      · exact .cons (isScalar_of_isDigit hc) (fun _ => rfl) (takes_fractionDigit hc ih h)
      · rw [fractionDigits, if_neg hc] at h
        refine .congr (fun _ hother => ?_) (fun _ => ?_) (takes_exponentOrEnd h)
        · rw [fractionDigits_of_stops hother, exponentOrEnd_of_stops hother]
        · rw [fractionDigits, if_neg hc]

/-- The part after a point is taken. -/
theorem takes_fraction (h : fraction negative significand start cs = .ok (n, rest)) :
    Takes (fraction negative significand start) cs n rest := by
  cases cs with
  | nil => cases h
  | cons c cs =>
      rw [fraction] at h
      split at h
      · rename_i hc
        exact .cons (isScalar_of_isDigit hc) (fun _ => by rw [fraction, if_pos hc])
          (takes_fractionDigit hc takes_fractionDigits h)
      · cases h

/-- The digits of a long whole part end where a number stops. -/
theorem longDigits_of_stops (h : Stops cs) :
    longDigits negative significand start cs = finish negative significand start cs := by
  cases cs with
  | nil => rfl
  | cons c cs =>
      rw [longDigits, isDigit_of_stops h, if_neg Bool.false_ne_true, if_neg (ne_of_stops h).1,
        exponentOrEnd_of_stops h]

/-- The digits of a long whole part are taken. -/
theorem takes_longDigits (h : longDigits negative significand start cs = .ok (n, rest)) :
    Takes (longDigits negative significand start) cs n rest := by
  induction cs generalizing start with
  | nil => exact .finish (fun _ => longDigits_of_stops) h
  | cons c cs ih =>
      rw [longDigits] at h
      split at h
      · rename_i hc
        exact .cons (isScalar_of_isDigit hc) (fun _ => by rw [longDigits, if_pos hc]) (ih h)
      · rename_i hc
        split at h
        · rename_i hpoint
          subst hpoint
          exact .cons rfl (fun _ => rfl) (takes_fraction h)
        · rename_i hpoint
          refine .congr (fun _ hother => ?_) (fun _ => ?_) (takes_exponentOrEnd h)
          · rw [longDigits_of_stops hother, exponentOrEnd_of_stops hother]
          · rw [longDigits, if_neg hc, if_neg hpoint]

/-- The digits of a whole part end where a number stops. -/
theorem wholeDigits_of_stops (h : Stops cs) :
    wholeDigits negative value cs = .ok (whole negative value, cs) := by
  cases cs with
  | nil => rfl
  | cons c cs =>
      obtain ⟨hpoint, he, hE⟩ := ne_of_stops h
      rw [wholeDigits, isDigit_of_stops h, if_neg Bool.false_ne_true, if_neg hpoint,
        if_neg (not_or.mpr ⟨he, hE⟩)]

/-- The digits of a whole part are taken. -/
theorem takes_wholeDigits (h : wholeDigits negative value cs = .ok (n, rest)) :
    Takes (wholeDigits negative value) cs n rest := by
  induction cs generalizing value with
  | nil =>
      cases h
      exact .nothing (fun _ => wholeDigits_of_stops) []
  | cons c cs ih =>
      rw [wholeDigits] at h
      split at h
      · rename_i hc
        split at h
        · rename_i hle
          exact .cons (isScalar_of_isDigit hc)
            (fun _ => by rw [wholeDigits, if_pos hc, if_pos hle]) (ih h)
        · rename_i hlong
          rw [longDigits, if_pos hc] at h
          exact .cons (isScalar_of_isDigit hc)
            (fun _ => by rw [wholeDigits, if_pos hc, if_neg hlong, longDigits, if_pos hc])
            (takes_longDigits h)
      · rename_i hc
        split at h
        · rename_i hpoint
          subst hpoint
          exact .cons rfl (fun _ => rfl) (takes_fraction h)
        · rename_i hpoint
          split at h
          · rename_i hmark
            refine .cons ?_ (fun _ => by rw [wholeDigits, if_neg hc, if_neg hpoint, if_pos hmark])
              (takes_exponent h)
            rcases hmark with rfl | rfl <;> rfl
          · cases h
            exact .nothing (fun _ => wholeDigits_of_stops) _

/-- A number begins with its first digit, and no digit follows a zero there. -/
theorem read_cons (hc : c.isDigit = true)
    (hzero : c = '0' → ∀ d ∈ cs.head?, d.isDigit = false) :
    read negative (c :: cs) = wholeDigits negative (digit c) cs := by
  rw [read.eq_def]
  split
  · rename_i heq
    cases heq
  · rename_i heq
    cases heq
    rw [hzero rfl _ rfl, if_neg Bool.false_ne_true]
    rfl
  · rename_i heq
    cases heq
    rw [if_pos hc]

/-- What is read begins with a digit. -/
theorem exists_cons_of_read (h : read negative cs = .ok (n, rest)) :
    ∃ c tail, cs = c :: tail ∧ c.isDigit = true ∧
      (c = '0' → ∀ d ∈ tail.head?, d.isDigit = false) ∧
      wholeDigits negative (digit c) tail = .ok (n, rest) := by
  rw [read.eq_def] at h
  split at h
  · cases h
  · rename_i d tail
    split at h
    · cases h
    · rename_i hd
      refine ⟨'0', d :: tail, rfl, rfl, fun _ e he => ?_, h⟩
      cases he
      simpa using hd
  · rename_i c tail hother
    split at h
    · rename_i hc
      refine ⟨c, tail, rfl, hc, fun hzero d hd => ?_, h⟩
      -- A zero with something behind it was dealt with before.
      cases tail with
      | nil => cases hd
      | cons e tail => exact absurd rfl (hother e tail hzero)
    · cases h

/-- A number is taken behind its first digit. -/
theorem takes_read (h : read negative cs = .ok (n, rest)) :
    ∃ c tail, cs = c :: tail ∧ c.isDigit = true ∧
      Takes (fun other => read negative (c :: other)) tail n rest := by
  obtain ⟨c, tail, rfl, hc, hzero, h⟩ := exists_cons_of_read h
  have hstop : ∀ other, Stops other →
      read negative (c :: other) = wholeDigits negative (digit c) other := by
    intro other hother
    refine read_cons hc fun _ d hd => ?_
    cases other with
    | nil => cases hd
    | cons e other =>
        cases hd
        exact isDigit_of_stops hother
  refine ⟨c, tail, rfl, hc, ?_⟩
  cases tail with
  | nil =>
      cases h
      exact .nothing (fun other hother => (hstop other hother).trans (wholeDigits_of_stops hother)) []
  | cons d tail =>
      refine .congr hstop (fun other => read_cons hc fun hc e he => ?_) (takes_wholeDigits h)
      cases he
      exact hzero hc d rfl

/-- **A number is taken with its sign.** -/
theorem takes_readSigned (h : readSigned cs = .ok (n, rest)) : Takes readSigned cs n rest := by
  rw [readSigned.eq_def] at h
  split at h
  · obtain ⟨c, tail, rfl, hc, htakes⟩ := takes_read h
    exact .cons rfl (fun _ => rfl) (.cons (isScalar_of_isDigit hc) (fun _ => rfl) htakes)
  · obtain ⟨c, tail, rfl, hc, htakes⟩ := takes_read h
    refine .cons (isScalar_of_isDigit hc) (fun other => ?_) htakes
    rw [readSigned.eq_def]
    split
    · rename_i heq
      cases heq
      cases hc
    · rfl

end Number

/-! ## Words and texts -/

/-- The letters of a word stand before the rest. -/
theorem eq_append_of_letters {ls cs rest : List Char} (h : letters ls cs = .ok rest) :
    cs = ls ++ rest := by
  induction ls generalizing cs with
  | nil =>
      cases h
      rfl
  | cons l ls ih =>
      cases cs with
      | nil => cases h
      | cons c cs =>
          rw [letters] at h
          split at h
          · rename_i hc
            rw [hc, ih h, List.cons_append]
          · cases h

/-- **What is taken for a text**: a part without newlines, which is read the same up to its closing
quote, whatever is behind the quote. -/
def TakesText (done cs s rest : List Char) : Prop :=
  ∃ body, cs = body ++ '"' :: rest ∧ '\n' ∉ body ∧
    ∀ other, textFrom done (body ++ '"' :: other) = .ok (s, other)

section Texts

variable {done cs s rest : List Char} {a b c d : Char} {n : Nat}

/-- A character is taken as it is spelled, and then what is behind it. -/
theorem TakesText.cons {spelled : List Char} {x : Char} (hline : '\n' ∉ spelled)
    (hread : ∀ other, textFrom done (spelled ++ other) = textFrom (x :: done) other)
    (h : TakesText (x :: done) cs s rest) : TakesText done (spelled ++ cs) s rest := by
  obtain ⟨body, rfl, hbody, hrest⟩ := h
  refine ⟨spelled ++ body, (List.append_assoc _ _ _).symm, ?_, fun other => ?_⟩
  · exact fun hmem => (List.mem_append.mp hmem).elim hline hbody
  · rw [List.append_assoc, hread]
    exact hrest other

/-- A newline is no hexadecimal digit. -/
theorem newline_not_mem_of_hexValue? (h : hexValue? a b c d = some n) : '\n' ∉ [a, b, c, d] := by
  intro hmem
  simp only [List.mem_cons, List.not_mem_nil, or_false] at hmem
  have hnone : hexDigit? '\n' = none := by decide
  rcases hmem with rfl | rfl | rfl | rfl <;> simp [hexValue?, hnone] at h

/-- A character may be spelled by its number. -/
theorem textFrom_number (h : hexValue? a b c d = some n) (hlow : ¬ isLowHalf n = true)
    (hhigh : ¬ isHighHalf n = true) (other : List Char) :
    textFrom done (['\\', 'u', a, b, c, d] ++ other) = textFrom (Char.ofNat n :: done) other := by
  simp only [List.cons_append, List.nil_append]
  rw [textFrom]
  simp only [h, if_neg hlow, if_neg hhigh]

/-- A character may be spelled by the numbers of its two halves. -/
theorem textFrom_pair {a' b' c' d' : Char} {m : Nat} (h : hexValue? a b c d = some n)
    (hlow : ¬ isLowHalf n = true) (hhigh : isHighHalf n = true)
    (h' : hexValue? a' b' c' d' = some m) (hlow' : isLowHalf m = true) (other : List Char) :
    textFrom done (['\\', 'u', a, b, c, d, '\\', 'u', a', b', c', d'] ++ other) =
      textFrom (pairedChar n m :: done) other := by
  simp only [List.cons_append, List.nil_append]
  rw [textFrom]
  simp only [h, h', if_neg hlow, if_pos hhigh, if_pos hlow']

/-- A character may be spelled by a letter behind a backslash. -/
theorem textFrom_letter {x : Char} (h : unescaped? c = some x) (other : List Char) :
    textFrom done (['\\', c] ++ other) = textFrom (x :: done) other := by
  have hc : c ≠ 'u' := by
    rintro rfl
    cases h
  simp only [List.cons_append, List.nil_append]
  rw [textFrom]
  · simp only [h]
  all_goals intros; exact absurd ‹c = 'u'› hc

/-- A character may stand for itself. -/
theorem textFrom_plain (hquote : c ≠ '"') (hbackslash : c ≠ '\\') (hcontrol : ¬ c.toNat < 0x20)
    (other : List Char) : textFrom done ([c] ++ other) = textFrom (c :: done) other := by
  rw [List.singleton_append, textFrom, if_neg hcontrol]
  · exact hquote
  all_goals intros; exact hbackslash ‹c = '\\'›

/-- Characters are taken up to a closing quote. -/
theorem takesText_of_textFrom (h : textFrom done cs = .ok (s, rest)) : TakesText done cs s rest := by
  fun_induction textFrom done cs
  all_goals try cases h
  -- What is left are the closing quote and the ways to spell a character.
  case case2 => exact ⟨[], rfl, List.not_mem_nil, fun _ => rfl⟩
  case case9 hn hlow hhigh _ _ _ _ _ _ hm hlow' ih =>
    refine .cons ?_ (textFrom_pair hn hlow hhigh hm hlow') (ih h)
    have hfirst := newline_not_mem_of_hexValue? hn
    have hsecond := newline_not_mem_of_hexValue? hm
    simp_all
  case case14 hn hlow hhigh ih =>
    refine .cons ?_ (textFrom_number hn hlow hhigh) (ih h)
    have hdigits := newline_not_mem_of_hexValue? hn
    simp_all
  case case16 c _ _ _ x hx ih =>
    refine .cons ?_ (textFrom_letter hx) (ih h)
    rintro hmem
    simp only [List.mem_cons, List.not_mem_nil, or_false] at hmem
    rcases hmem with hmem | rfl
    · cases hmem
    · cases hx
  case case19 c tail hquote hnil _ _ hcons hcontrol ih =>
    have hbackslash : c ≠ '\\' := by
      rintro rfl
      cases tail with
      | nil => exact hnil rfl rfl
      | cons d tail => exact hcons d tail rfl rfl
    refine .cons ?_ (textFrom_plain hquote hbackslash hcontrol) (ih h)
    rintro hmem
    obtain rfl := List.mem_singleton.mp hmem
    exact hcontrol (by decide)

end Texts

/-- **A quoted text is taken.** -/
theorem takesText_of_text {cs s rest : List Char} (h : text cs = .ok (s, rest)) :
    TakesText [] cs s rest :=
  takesText_of_textFrom h

end Courseware.Json
