import Courseware.Proofs.Json.Extent
import Courseware.Proofs.Response.Item

/-! # Which option an answer stands for

An answer in words has four readings, and the first one that it has counts
(`answerIndex_eq_some_iff`): it is the text of an option, a number, a letter, or the text of an
option in another case. An option whose text looks like a number or a letter is meant before the
place that these name.

* **Options are told apart** by the answers that name them, when there are up to four and no blanks
  are around them (`toldApart_of_trimmed`).
* **The correct option is empty** exactly when a blank text was given for it, and then the answer
  names it by its place (`exists_correctGiven_of_question`).
-/

namespace Courseware

/-! ## Numbers and letters -/

namespace Text

/-- The digits of a number are read as that number when it fits 64 bits. -/
theorem wholeNumber_toDigits {n : Nat} (h : n < Nat.pow 2 64) :
    wholeNumber (Nat.toDigits 10 n) = some n := by
  have hdigit : ∀ c ∈ Nat.toDigits 10 n, c.isDigit = true := fun c hc =>
    Nat.isDigit_of_mem_toDigits (by decide) (by decide) hc
  have hvalue : Nat.ofDigitChars 10 (Nat.toDigits 10 n) 0 = n :=
    Nat.ofDigitChars_toDigits (by decide) (by decide)
  have hne : Nat.toDigits 10 n ≠ [] := Nat.toDigits_ne_nil
  generalize Nat.toDigits 10 n = ds at hdigit hvalue hne
  have hall : ds.all Char.isDigit = true := List.all_eq_true.mpr hdigit
  simp only [wholeNumber]
  split
  · -- A sign is no digit.
    exact absurd (hdigit _ List.mem_cons_self) (by decide)
  · rw [if_neg (by simp [hne, hall]), ← Nat.ofDigitChars.eq_1, hvalue, if_pos h]

/-- A letter is no digit. -/
theorem isDigit_of_isAlpha {c : Char} (h : c.isAlpha = true) : c.isDigit = false := by
  rw [Bool.eq_false_iff]
  intro hdigit
  change (decide (c.val ≥ 'A'.val ∧ c.val ≤ 'Z'.val) ||
    decide (c.val ≥ 'a'.val) && decide (c.val ≤ 'z'.val)) = true at h
  change (decide (c.val ≥ '0'.val) && decide (c.val ≤ '9'.val)) = true at hdigit
  simp only [Bool.or_eq_true, Bool.and_eq_true, decide_eq_true_eq, ge_iff_le,
    UInt32.le_iff_toNat_le] at h hdigit
  have hbefore : '9'.val.toNat < 'A'.val.toNat ∧ 'A'.val.toNat < 'a'.val.toNat := by decide
  omega

/-- A text that begins with a letter is no number. -/
theorem wholeNumber_cons_of_isAlpha {c : Char} (cs : List Char) (h : c.isAlpha = true) :
    wholeNumber (c :: cs) = none := by
  simp only [wholeNumber]
  split
  · rename_i hplus
    cases hplus
    exact absurd h (by decide)
  · rw [if_pos]
    simp [isDigit_of_isAlpha h]

end Text

namespace Response

open Json Text

variable {options : List String} {answer : List Char} {i : Nat}

/-- What may stand behind a letter: nothing, a closing parenthesis or a full stop. -/
def marks : List (List Char) := [[], [')'], ['.']]

/-- **An answer by letter**: a letter and at most one mark behind it. -/
def Lettered (answer : List Char) (c : Char) : Prop :=
  c.isAlpha = true ∧ ∃ mark ∈ marks, answer = c :: mark

/-- **One mark is taken away** from the end of a text, or none. -/
theorem exists_mark_of_withoutMark (cs : List Char) :
    ∃ mark ∈ marks, cs = withoutMark cs ++ mark := by
  have hdrop : ∀ d, cs.getLast? = some d → cs = cs.dropLast ++ [d] := by
    intro d hd
    obtain ⟨front, rfl⟩ := List.getLast?_eq_some_iff.mp hd
    rw [List.dropLast_concat]
  rw [withoutMark]
  split
  · exact ⟨[')'], by decide, hdrop _ ‹_›⟩
  · exact ⟨['.'], by decide, hdrop _ ‹_›⟩
  · exact ⟨[], by decide, (List.append_nil cs).symm⟩

/-- The mark behind a letter is taken away, and the letter is not. -/
theorem withoutMark_cons_of_isAlpha {c : Char} {mark : List Char} (hc : c.isAlpha = true)
    (hmark : mark ∈ marks) : withoutMark (c :: mark) = [c] := by
  simp only [marks, List.mem_cons, List.not_mem_nil, or_false] at hmark
  rcases hmark with rfl | rfl | rfl
  · rw [withoutMark, List.getLast?_singleton]
    split
    · rename_i h
      cases h
      exact absurd hc (by decide)
    · rename_i h
      cases h
      exact absurd hc (by decide)
    · rfl
  · rfl
  · rfl

/-- An answer is by a letter exactly when that letter is all that is left of it without a mark. -/
theorem lettered_iff {c : Char} :
    Lettered answer c ↔ c.isAlpha = true ∧ withoutMark answer = [c] := by
  constructor
  · rintro ⟨hc, mark, hmark, rfl⟩
    exact ⟨hc, withoutMark_cons_of_isAlpha hc hmark⟩
  · rintro ⟨hc, hanswer⟩
    -- The mark that was taken away stands behind the letter.
    obtain ⟨mark, hmark, hcut⟩ := exists_mark_of_withoutMark answer
    rw [hanswer] at hcut
    exact ⟨hc, mark, hmark, hcut⟩

/-! ## The readings of an answer -/

/-- **The first place** in a list where a property holds. -/
def FirstAt {α : Type} (p : α → Prop) (xs : List α) (i : Nat) : Prop :=
  ∃ h : i < xs.length, p xs[i] ∧ ∀ j (hj : j < i), ¬ p xs[j]

/-- The search for a place finds the first one. -/
theorem findIdx?_eq_some_iff_firstAt {α : Type} {p : α → Bool} {xs : List α} :
    xs.findIdx? p = some i ↔ FirstAt (fun x => p x = true) xs i :=
  List.findIdx?_eq_some_iff_getElem

/-- A property of something in a list holds first at some place. -/
theorem exists_firstAt_of_mem {α : Type} {p : α → Prop} {xs : List α} {x : α} (hx : x ∈ xs)
    (h : p x) : ∃ i, FirstAt p xs i := by
  classical
  have hfound : (xs.findIdx? fun y => decide (p y)).isSome = true := by
    rw [List.findIdx?_isSome, List.any_eq_true]
    exact ⟨x, hx, decide_eq_true h⟩
  obtain ⟨i, hi⟩ := Option.isSome_iff_exists.mp hfound
  rw [findIdx?_eq_some_iff_firstAt] at hi
  simp only [decide_eq_true_eq] at hi
  exact ⟨i, hi⟩

/-- **What an answer in words stands for.** A reading is open only when the answer does not have one
of those before. -/
inductive StandsFor (options : List String) (answer : List Char) : Nat → Prop where
  /-- The answer is the text of an option. -/
  | text {i : Nat} (hne : answer ≠ []) (hfirst : FirstAt (fun o => o.toList = answer) options i) :
      StandsFor options answer i
  /-- The answer is a number. -/
  | number {i : Nat} (htext : ∀ o ∈ options, o.toList ≠ answer)
      (hnumber : wholeNumber answer = some i) : StandsFor options answer i
  /-- The answer is the letter of a place. -/
  | letter {c : Char} (htext : ∀ o ∈ options, o.toList ≠ answer)
      (hnumber : wholeNumber answer = none) (hletter : Lettered answer c)
      (hlt : c.toUpper.toNat - 'A'.toNat < 4) :
      StandsFor options answer (c.toUpper.toNat - 'A'.toNat)
  /-- The answer is the text of an option in another case. -/
  | caseless {i : Nat} (htext : ∀ o ∈ options, o.toList ≠ answer)
      (hnumber : wholeNumber answer = none) (hletter : ∀ c, ¬ Lettered answer c)
      (hfirst : FirstAt (fun o => sameIgnoringCase o.toList answer = true) options i) :
      StandsFor options answer i

/-- Of two texts that are equal up to the case both are empty or none is. -/
theorem eq_nil_iff_of_sameIgnoringCase {xs ys : List Char} (h : sameIgnoringCase xs ys = true) :
    xs = [] ↔ ys = [] := by
  have hlength := congrArg List.length (beq_iff_eq.mp h)
  simp only [lowercase, List.length_map] at hlength
  rw [← List.length_eq_zero_iff, hlength, List.length_eq_zero_iff]

/-- The empty answer stands for nothing. -/
theorem StandsFor.ne_nil (h : StandsFor options answer i) : answer ≠ [] := by
  rintro rfl
  cases h with
  | text hne _ => exact hne rfl
  | number _ hnumber => cases hnumber
  | letter _ _ hletter _ =>
      obtain ⟨-, _, -, hanswer⟩ := hletter
      cases hanswer
  | caseless htext _ _ hfirst =>
      obtain ⟨hlt, hsame, -⟩ := hfirst
      exact htext _ (List.getElem_mem hlt) ((eq_nil_iff_of_sameIgnoringCase hsame).mpr rfl)

/-- An answer that is the text of an option stands for the first one with that text. -/
theorem answerIndex_of_text (hne : answer ≠ [])
    (hfirst : FirstAt (fun o => o.toList = answer) options i) :
    answerIndex options answer = some i := by
  have hfind : (options.findIdx? fun o => o.toList == answer) = some i := by
    rw [findIdx?_eq_some_iff_firstAt]
    simpa only [beq_iff_eq] using hfirst
  rw [answerIndex, if_neg (by simpa using hne), hfind, Option.orElse_some]

section NoText

variable (hne : answer ≠ []) (htext : ∀ o ∈ options, o.toList ≠ answer)

include hne htext

/-- An answer that is no text of an option is read as a number, and otherwise by its letter or in
another case. -/
theorem answerIndex_of_no_text :
    answerIndex options answer =
      (wholeNumber answer).orElse fun _ =>
        match withoutMark answer with
        | [c] =>
          if c.isAlpha then
            if c.toUpper.toNat - 'A'.toNat < 4 then some (c.toUpper.toNat - 'A'.toNat) else none
          else options.findIdx? fun o => sameIgnoringCase o.toList answer
        | _ => options.findIdx? fun o => sameIgnoringCase o.toList answer := by
  have hfind : (options.findIdx? fun o => o.toList == answer) = none := by
    rw [List.findIdx?_eq_none_iff]
    intro o ho
    exact beq_eq_false_iff_ne.mpr (htext o ho)
  rw [answerIndex, if_neg (by simpa using hne), hfind]
  rfl

/-- An answer that is a letter stands for the place of that letter among the first four. -/
theorem answerIndex_of_letter {c : Char} (hnumber : wholeNumber answer = none)
    (hletter : Lettered answer c) :
    answerIndex options answer =
      if c.toUpper.toNat - 'A'.toNat < 4 then some (c.toUpper.toNat - 'A'.toNat) else none := by
  obtain ⟨hc, hmark⟩ := lettered_iff.mp hletter
  rw [answerIndex_of_no_text hne htext, hnumber, hmark]
  exact if_pos hc

/-- An answer that is no letter stands for the first option that it is equal to up to the case. -/
theorem answerIndex_of_no_letter (hnumber : wholeNumber answer = none)
    (hletter : ∀ c, ¬ Lettered answer c) :
    answerIndex options answer = options.findIdx? fun o => sameIgnoringCase o.toList answer := by
  rw [answerIndex_of_no_text hne htext, hnumber, Option.orElse_none]
  split
  · rename_i c hmark
    rw [if_neg]
    intro hc
    exact hletter c (lettered_iff.mpr ⟨hc, hmark⟩)
  · rfl

end NoText

/-- **An answer in words is read** in the first way that is open. -/
theorem answerIndex_eq_some_iff :
    answerIndex options answer = some i ↔ StandsFor options answer i := by
  constructor
  · intro h
    have hne : answer ≠ [] := by
      rintro rfl
      cases h
    by_cases htext : ∃ o ∈ options, o.toList = answer
    · obtain ⟨o, ho, hanswer⟩ := htext
      obtain ⟨j, hfirst⟩ := exists_firstAt_of_mem (p := fun o => o.toList = answer) ho hanswer
      rw [answerIndex_of_text hne hfirst] at h
      cases h
      exact .text hne hfirst
    · have htext : ∀ o ∈ options, o.toList ≠ answer := by simpa using htext
      cases hnumber : wholeNumber answer with
      | some n =>
          rw [answerIndex_of_no_text hne htext, hnumber] at h
          exact .number htext (hnumber.trans h)
      | none =>
          by_cases hletter : ∃ c, Lettered answer c
          · obtain ⟨c, hc⟩ := hletter
            rw [answerIndex_of_letter hne htext hnumber hc] at h
            split at h
            · cases h
              exact .letter htext hnumber hc ‹_›
            · cases h
          · have hletter := not_exists.mp hletter
            rw [answerIndex_of_no_letter hne htext hnumber hletter] at h
            exact .caseless htext hnumber hletter (findIdx?_eq_some_iff_firstAt.mp h)
  · intro h
    have hne := h.ne_nil
    cases h with
    | text _ hfirst => exact answerIndex_of_text hne hfirst
    | number htext hnumber => rw [answerIndex_of_no_text hne htext, hnumber, Option.orElse_some]
    | letter htext hnumber hletter hlt =>
        rw [answerIndex_of_letter hne htext hnumber hletter, if_pos hlt]
    | caseless htext hnumber hletter hfirst =>
        rw [answerIndex_of_no_letter hne htext hnumber hletter]
        exact findIdx?_eq_some_iff_firstAt.mpr hfirst

/-! ## The place of the correct option -/

/-- The correct option by words is the one that the answer stands for without the blanks around it,
when that place has an option. -/
theorem correctIndex_string_eq_some_iff {s : String} :
    correctIndex options (.string s) = some i ↔
      StandsFor options (trim s.toList) i ∧ i < options.length ∧ i < 4 := by
  simp only [correctIndex, Option.filter_eq_some_iff, answerIndex_eq_some_iff, decide_eq_true_eq]
  rfl

/-- The letters of a place: a capital and a small one. -/
def letters (i : Nat) : List Char := [Char.ofNat ('A'.toNat + i), Char.ofNat ('a'.toNat + i)]

/-- The letters of the first four places are letters, and stand for their places. -/
theorem isAlpha_of_mem_letters :
    ∀ i < 4, ∀ c ∈ letters i, c.isAlpha = true ∧ c.toUpper.toNat - 'A'.toNat = i := by
  have hcapital : ∀ i < 4, (Char.ofNat ('A'.toNat + i)).isAlpha = true ∧
      (Char.ofNat ('A'.toNat + i)).toUpper.toNat - 'A'.toNat = i := by decide
  have hsmall : ∀ i < 4, (Char.ofNat ('a'.toNat + i)).isAlpha = true ∧
      (Char.ofNat ('a'.toNat + i)).toUpper.toNat - 'A'.toNat = i := by decide
  intro i hi c hc
  rcases List.mem_pair.mp hc with rfl | rfl
  · exact hcapital i hi
  · exact hsmall i hi

/-- **The spellings of a place** other than the text of its option. -/
inductive Spells : List Char → Nat → Prop where
  /-- The number of the place. -/
  | digits (i : Nat) : Spells (Nat.toDigits 10 i) i
  /-- A letter of the place, with or without a mark behind it. -/
  | letter {i : Nat} {c : Char} {mark : List Char} (hi : i < 4) (hc : c ∈ letters i)
      (hmark : mark ∈ marks) : Spells (c :: mark) i

/-- There are no blanks in a spelling. -/
theorem Spells.trim_eq (h : Spells answer i) : trim answer = answer := by
  apply trim_eq_self
  cases h with
  | digits =>
      intro d hd
      have hdigit := Nat.isDigit_of_mem_toDigits (by decide) (by decide) hd
      exact isBlank_of_isScalar (Number.isScalar_of_isDigit hdigit)
  | letter hi hc hmark =>
      have halpha := (isAlpha_of_mem_letters i hi _ hc).1
      have hmarks : ∀ mark ∈ marks, mark.all (fun d => !isBlank d) = true := by decide
      intro d hd
      rcases List.mem_cons.mp hd with rfl | hd
      · apply isBlank_of_isScalar
        simp [isScalar, Char.isAlphanum, halpha]
      · simpa using List.all_eq_true.mp (hmarks _ hmark) d hd

/-- **A spelling stands for its place** unless it is the text of an option. -/
theorem Spells.standsFor (h : Spells answer i) (hi : i < 4)
    (htext : ∀ o ∈ options, o.toList ≠ answer) : StandsFor options answer i := by
  cases h with
  | digits => exact .number htext (wholeNumber_toDigits (hi.trans (by decide)))
  | letter _ hc hmark =>
      obtain ⟨halpha, hplace⟩ := isAlpha_of_mem_letters i hi _ hc
      have hletter := StandsFor.letter htext (wholeNumber_cons_of_isAlpha _ halpha)
        ⟨halpha, _, hmark, rfl⟩ (by rwa [hplace])
      rwa [hplace] at hletter

/-- **A text with blanks around it**, or none. -/
def Padded (text : List Char) (s : String) : Prop :=
  ∃ lead trail, isBlankText lead = true ∧ isBlankText trail = true ∧
    s.toList = lead ++ text ++ trail

/-- The blanks around a text are trimmed away. -/
theorem Padded.trim_eq {text : List Char} {s : String} (h : Padded text s) :
    trim s.toList = trim text := by
  obtain ⟨lead, trail, hlead, htrail, hs⟩ := h
  rw [hs, trim_around text hlead htrail]

/-- **Options that answers tell apart**: every spelling of a place leads there, and nothing leads
out of the list. -/
structure ToldApart (options : List String) : Prop where
  /-- A place may be given as a number. -/
  number : ∀ i < options.length, correctIndex options (.number (.integer i)) = some i
  /-- A place may be spelled, unless an option has that very text. -/
  spelled : ∀ i < options.length, ∀ spelling, Spells spelling i →
    (∀ o ∈ options, o.toList ≠ spelling) → ∀ s, Padded spelling s →
      correctIndex options (.string s) = some i
  /-- An option that is not empty may be named by its text. The first one with that text is
  meant. -/
  named : ∀ o ∈ options, o ≠ "" → ∀ s, Padded o.toList s →
    ∃ j, correctIndex options (.string s) = some j ∧ FirstAt (· = o) options j
  /-- Any other answer means the first option that it is equal to up to the case. -/
  caseless : ∀ s, trimmed s ∉ options → wholeNumber (trim s.toList) = none →
    (∀ c, ¬ Lettered (trim s.toList) c) → ∀ j,
      correctIndex options (.string s) = some j ↔
        FirstAt (fun o => sameIgnoringCase o.toList (trim s.toList) = true) options j
  /-- What an answer means is in the list. -/
  lt_length : ∀ json j, correctIndex options json = some j → j < options.length

/-- **Up to four trimmed options are told apart.** -/
theorem toldApart_of_trimmed (hlength : options.length ≤ 4)
    (htrimmed : ∀ o ∈ options, trimmed o = o) : ToldApart options where
  number i hi := by
    have hfour : i < 4 := by omega
    simp [correctIndex, optionCount, hi, hfour]
  spelled i hi spelling hspells htext s hs := by
    rw [correctIndex_string_eq_some_iff, hs.trim_eq, hspells.trim_eq]
    exact ⟨hspells.standsFor (by omega) htext, hi, by omega⟩
  named o ho hne s hs := by
    have htrim : trim s.toList = o.toList := by
      rw [hs.trim_eq, ← String.toList_ofList (l := trim o.toList), ← trimmed, htrimmed o ho]
    -- Another option before it may have the same text.
    obtain ⟨j, hfirst⟩ := exists_firstAt_of_mem (p := fun x => x.toList = o.toList) ho rfl
    refine ⟨j, ?_, by simpa only [String.toList_inj] using hfirst⟩
    rw [correctIndex_string_eq_some_iff, htrim]
    refine ⟨.text (by simpa using hne) hfirst, hfirst.1, ?_⟩
    exact hfirst.1.trans_le hlength
  caseless s hs hnumber hletter j := by
    have htext : ∀ o ∈ options, o.toList ≠ trim s.toList := by
      intro o ho hanswer
      rw [trimmed, ← hanswer, String.ofList_toList] at hs
      exact hs ho
    rw [correctIndex_string_eq_some_iff]
    constructor
    · -- The three readings before are closed.
      rintro ⟨hstands, -⟩
      cases hstands with
      | text _ hfirst =>
          obtain ⟨hlt, hanswer, -⟩ := hfirst
          exact absurd hanswer (htext _ (List.getElem_mem hlt))
      | number _ hsome =>
          rw [hnumber] at hsome
          cases hsome
      | letter _ _ hsome _ => exact absurd hsome (hletter _)
      | caseless _ _ _ hfirst => exact hfirst
    · intro hfirst
      exact ⟨.caseless htext hnumber hletter hfirst, hfirst.1, hfirst.1.trans_le hlength⟩
  lt_length _ _ h := (correctIndex_lt h).1

/-- Options that look like numbers and letters are told apart. -/
theorem toldApart_lookAlikes :
    ["2", "B", "", "b)"].length ≤ 4 ∧ (∀ o ∈ ["2", "B", "", "b)"], trimmed o = o) ∧
      ToldApart ["2", "B", "", "b)"] :=
  ⟨by decide, by decide +kernel, toldApart_of_trimmed (by decide) (by decide +kernel)⟩

/-- The text of an option goes before the number and the letter. -/
example :
    [" 2", "1", "b)", "B.", "c"].map
      (fun s => correctIndex ["2", "B", "", "b)"] (.string s)) =
        [some 0, some 1, some 3, some 1, some 2] := by
  decide +kernel

/-! ## An empty correct option -/

/-- **An answer by place**: none at all, a number, or a text that is a number or a letter. -/
inductive ByPlace : Option Json → Prop where
  /-- Without an answer the first option is correct. -/
  | missing : ByPlace none
  /-- The answer is a number. -/
  | index (n : Number) : ByPlace (some (.number n))
  /-- The answer is a text of digits. -/
  | numeral {s : String} {n : Nat} (h : wholeNumber (trim s.toList) = some n) :
      ByPlace (some (.string s))
  /-- The answer is a letter. -/
  | letter {s : String} {c : Char} (h : Lettered (trim s.toList) c) : ByPlace (some (.string s))

/-- Only a number and a letter stand for an empty option. -/
theorem StandsFor.of_empty (h : StandsFor options answer i) (hempty : options[i]? = some "") :
    (∃ n, wholeNumber answer = some n) ∨ ∃ c, Lettered answer c := by
  have hnil : ∀ hlt : i < options.length, options[i].toList = [] := by
    intro hlt
    rw [List.getElem?_eq_getElem hlt, Option.some.injEq] at hempty
    rw [hempty]
    rfl
  cases h with
  | text hne hfirst =>
      obtain ⟨hlt, hanswer, -⟩ := hfirst
      exact absurd (hanswer.symm.trans (hnil hlt)) hne
  | number _ hnumber => exact .inl ⟨_, hnumber⟩
  | letter _ _ hletter _ => exact .inr ⟨_, hletter⟩
  | caseless htext _ _ hfirst =>
      -- Only the empty answer is the empty text in another case, and it is the text itself.
      obtain ⟨hlt, hsame, -⟩ := hfirst
      have hanswer : answer = [] := (eq_nil_iff_of_sameIgnoringCase hsame).mp (hnil hlt)
      exact absurd ((hnil hlt).trans hanswer.symm) (htext _ (List.getElem_mem hlt))

/-- An empty option that was found correct was named by its place. -/
theorem byPlace_of_correctIndex {json : Json} (h : correctIndex options json = some i)
    (hempty : options[i]? = some "") : ByPlace (some json) := by
  cases json with
  | number n => exact .index n
  | string s =>
      have hstands := (correctIndex_string_eq_some_iff.mp h).1
      rcases hstands.of_empty hempty with ⟨n, hnumber⟩ | ⟨c, hletter⟩
      · exact .numeral hnumber
      · exact .letter hletter
  | _ => cases h

/-- **How the correct option of a question was given.** -/
structure CorrectGiven (members : Members) (given : List String) (raw : String) (q : Question) :
    Prop where
  /-- There was a text for it. -/
  given : given[q.correct]? = some raw
  /-- It is empty exactly when that text was blank. -/
  empty_iff : q.options.toList[q.correct]? = some "" ↔ blank raw = true
  /-- Then the answer is by place. -/
  byPlace : blank raw = true → ByPlace (firstPresent correctAliases members)

/-- **When the correct option is empty**: a blank text was given in its place, and the answer names
it by that place. -/
theorem exists_correctGiven_of_question {json : Json} {q : Question} (h : question json = .ok q) :
    ∃ members given raw, json = .object members ∧
      firstPresent optionsAliases members = some given ∧
      CorrectGiven members (givenOptions given) raw q := by
  obtain ⟨members, given, hjson, hgiven, hasked⟩ := question_eq_ok_iff.mp h
  have hlt := correctOption_lt hasked.ne_nil hasked.correct
  have hlength : q.correct < (givenOptions given).length := hlt.trans_le (Nat.min_le_right _ _)
  have hraw := List.getElem?_eq_getElem hlength
  have hread : (((givenOptions given).take 4).map trimmed)[q.correct]? =
      some (trimmed (givenOptions given)[q.correct]) := by
    rw [List.getElem?_map, List.getElem?_take_of_lt (hlt.trans_le (Nat.min_le_left _ _)), hraw,
      Option.map_some]
  have hoption : q.options.toList[q.correct]? = some (trimmed (givenOptions given)[q.correct]) := by
    rw [hasked.options, List.getElem?_append_left (by simpa using hlt), hread]
  refine ⟨members, given, _, hjson, hgiven, hraw, ?_, ?_⟩
  · rw [hoption, Option.some.injEq, trimmed_eq_empty_iff]
  · intro hempty
    rw [trimmed_eq_empty_iff.mpr hempty] at hread
    have hcorrect := hasked.correct
    rw [correctOption] at hcorrect
    cases hanswer : firstPresent correctAliases members with
    | none => exact .missing
    | some answer =>
        rw [hanswer] at hcorrect
        exact byPlace_of_correctIndex hcorrect hread

/-- An item whose second option is blank, and correct. -/
theorem exists_correctGiven_of_question_blank_second :
    question (.object [("question", .string "Q"), ("options", .array [.string "Yes", .string " "]),
      ("answer", .string "B")]) = .ok ⟨"Q", #v["Yes", "", "", ""], 1, "", .medium⟩ ∧
    ∃ members given raw,
      Json.object [("question", .string "Q"), ("options", .array [.string "Yes", .string " "]),
        ("answer", .string "B")] = .object members ∧
      firstPresent optionsAliases members = some given ∧
      CorrectGiven members (givenOptions given) raw ⟨"Q", #v["Yes", "", "", ""], 1, "", .medium⟩ :=
  ⟨by rfl, exists_correctGiven_of_question (by rfl)⟩

/-- The correct option of a question may be empty. -/
theorem not_correct_visible :
    ¬ ∀ json q, question json = .ok q → q.options.toList[q.correct]? ≠ some "" := by
  intro h
  have hread : question (.object [("question", .string "Q"),
      ("options", .array [.string "", .string "Yes"]), ("answer", .string "A")]) =
        .ok ⟨"Q", #v["", "Yes", "", ""], 0, "", .medium⟩ := by rfl
  exact h _ _ hread rfl

end Response

end Courseware
