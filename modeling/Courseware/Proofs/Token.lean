import Courseware.Token
import Courseware.Proofs.Text.Cut

/-! # Budgets and words in bytes

A budget of tokens is worth four bytes for each of them, up to the greatest size, and a word takes
up two bytes but for the last one: a letter and what ends it. A text of two parts has the words of
the first part and those that begin in the second one (`countWordsFrom_append`). These are the words
of the second part, but for one that the first part has begun (`countWords_append`).

* **Two texts in a row** have at most one word less than both of them and no fewer than one of them.
  Rounding makes their estimate at most one token more than both estimates, and it is no smaller
  than the first one as long as both count words or both count bytes (`estimate_append_bounds`).
-/

namespace Courseware.Token

open Text

/-! ## Budgets -/

/-- A budget is worth at most four bytes a token. -/
theorem toBytes_le (tokens : Nat) : toBytes tokens ≤ 4 * tokens := by
  rw [toBytes, bytesPerToken]
  omega

/-- One token makes room for a character. -/
theorem four_le_toBytes {tokens : Nat} (h : 0 < tokens) : 4 ≤ toBytes tokens := by
  have hmax : maxSize = 18446744073709551615 := rfl
  rw [toBytes, bytesPerToken, hmax]
  omega

/-- Only the empty budget is worth no bytes. -/
theorem toBytes_eq_zero_iff {tokens : Nat} : toBytes tokens = 0 ↔ tokens = 0 := by
  constructor
  · intro h
    by_contra hne
    have hfour := four_le_toBytes (Nat.pos_of_ne_zero hne)
    omega
  · rintro rfl
    rfl

/-! ## Words -/

/-- Words take up two bytes each but for the last one. A word that is being read has taken up its
first byte. -/
theorem two_mul_countWordsFrom_le (inside : Bool) (cs : List Char) :
    2 * countWordsFrom inside cs ≤ byteLength cs + if inside then 0 else 1 := by
  induction cs generalizing inside with
  | nil => simp [countWordsFrom]
  | cons c cs ih =>
      have hc := c.utf8Size_pos
      have houtside := ih false
      have hinside := ih true
      simp only [Bool.false_eq_true, if_false, if_true] at houtside hinside
      cases inside with
      | true =>
          rw [countWordsFrom, byteLength_cons, if_pos rfl]
          cases continuesWord c <;> omega
      | false =>
          rw [countWordsFrom, byteLength_cons, if_neg Bool.false_ne_true]
          split <;> omega

/-- The words of a text with a first character: they fit what follows it and two bytes. -/
theorem two_mul_countWords_cons_le (c : Char) (cs : List Char) :
    2 * countWords (c :: cs) ≤ byteLength cs + 2 := by
  have houtside := two_mul_countWordsFrom_le false cs
  have hinside := two_mul_countWordsFrom_le true cs
  simp only [Bool.false_eq_true, if_false, if_true] at houtside hinside
  rw [countWords, countWordsFrom]
  split <;> omega

/-- What may begin a word may also go on with one. -/
theorem continuesWord_of_startsWord {c : Char} (h : startsWord c = true) :
    continuesWord c = true := by
  simp [continuesWord, h]

/-- **Read from inside a word**, a text has one word less exactly when the word that is being read
goes on to a character that may begin one. -/
theorem countWordsFrom_true_add (cs : List Char) :
    countWordsFrom true cs + (if (cs.takeWhile continuesWord).any startsWord then 1 else 0) =
      countWords cs := by
  rw [countWords]
  induction cs with
  | nil => rfl
  | cons c cs ih =>
      rw [countWordsFrom, countWordsFrom, List.takeWhile_cons]
      by_cases hstart : startsWord c = true
      · simp [hstart, continuesWord_of_startsWord hstart]
      · by_cases hgoes : continuesWord c = true
        · -- A hyphen begins no word and ends none.
          simpa [hstart, hgoes, List.any_cons] using ih
        · simp [hstart, hgoes]

/-- **A text has no words** exactly when no character of it may begin one. -/
theorem countWords_eq_zero_iff {cs : List Char} :
    countWords cs = 0 ↔ ∀ c ∈ cs, startsWord c = false := by
  rw [countWords]
  induction cs with
  | nil => simp [countWordsFrom]
  | cons c cs ih =>
      rw [countWordsFrom, List.forall_mem_cons, ← ih]
      by_cases hc : startsWord c = true <;> simp [hc]

/-- Whether a text ends inside a word, when it is read from inside a word or from outside one. -/
def insideAfter : Bool → List Char → Bool
  | inside, [] => inside
  | true, c :: cs => insideAfter (continuesWord c) cs
  | false, c :: cs => insideAfter (startsWord c) cs

/-- **The words of two texts in a row**: those of the first, and those that begin in the second when
it is read from where the first one ends. -/
theorem countWordsFrom_append (inside : Bool) (xs ys : List Char) :
    countWordsFrom inside (xs ++ ys) =
      countWordsFrom inside xs + countWordsFrom (insideAfter inside xs) ys := by
  induction xs generalizing inside with
  | nil => simp [countWordsFrom, insideAfter]
  | cons c xs ih =>
      rw [List.cons_append]
      cases inside with
      | true =>
          simp only [countWordsFrom, insideAfter]
          exact ih _
      | false =>
          simp only [countWordsFrom, insideAfter, ih]
          by_cases hc : startsWord c = true
          · simp only [hc, if_true]
            omega
          · simp [hc]

/-- A text that ends inside a word has one. -/
theorem countWords_pos_of_insideAfter {cs : List Char} (h : insideAfter false cs = true) :
    0 < countWords cs := by
  rw [countWords]
  induction cs with
  | nil => cases h
  | cons c cs ih =>
      rw [countWordsFrom]
      by_cases hc : startsWord c = true
      · rw [if_pos hc]
        exact Nat.succ_pos _
      · rw [insideAfter, eq_false_of_ne_true hc] at h
        rw [if_neg hc]
        exact ih h

/-- **Two texts share a word** that goes on from the first into the second: the first one ends
inside a word, and in the second one that word comes to a character that may begin one. -/
def ShareWord (xs ys : List Char) : Prop :=
  insideAfter false xs = true ∧ (ys.takeWhile continuesWord).any startsWord = true

instance (xs ys : List Char) : Decidable (ShareWord xs ys) := inferInstanceAs (Decidable (_ ∧ _))

/-- **The words of two texts in a row**: those of both, and a word that they share counts once. -/
theorem countWords_append (xs ys : List Char) :
    countWords (xs ++ ys) + (if ShareWord xs ys then 1 else 0) = countWords xs + countWords ys := by
  have hsplit : countWords (xs ++ ys) =
      countWords xs + countWordsFrom (insideAfter false xs) ys := countWordsFrom_append false xs ys
  rw [hsplit]
  cases hinside : insideAfter false xs with
  | false => simp [ShareWord, hinside, countWords]
  | true =>
      simp only [ShareWord, hinside, true_and]
      rw [Nat.add_assoc, countWordsFrom_true_add]

/-- Two texts that share a word have one each. -/
theorem ShareWord.countWords_pos {xs ys : List Char} (h : ShareWord xs ys) :
    0 < countWords xs ∧ 0 < countWords ys := by
  refine ⟨countWords_pos_of_insideAfter h.1, ?_⟩
  rw [← countWordsFrom_true_add, if_pos h.2]
  exact Nat.succ_pos _

/-- Two texts in a row have no more words than both of them. -/
theorem countWords_append_le (xs ys : List Char) :
    countWords (xs ++ ys) ≤ countWords xs + countWords ys :=
  Nat.le.intro (countWords_append xs ys)

/-- Two texts in a row have at most one word less than both of them. -/
theorem le_countWords_append_add_one (xs ys : List Char) :
    countWords xs + countWords ys ≤ countWords (xs ++ ys) + 1 := by
  rw [← countWords_append]
  split <;> omega

/-- **Two texts in a row** have no fewer words than each of them: when they share one, the other
text has a word too. -/
theorem max_countWords_le (xs ys : List Char) :
    max (countWords xs) (countWords ys) ≤ countWords (xs ++ ys) := by
  have hsum := countWords_append xs ys
  by_cases h : ShareWord xs ys
  · obtain ⟨hx, hy⟩ := h.countWords_pos
    rw [if_pos h] at hsum
    omega
  · rw [if_neg h] at hsum
    omega

/-! ## Estimates -/

@[simp] theorem estimate_nil : estimate [] = 0 := rfl

/-- The estimate of a text that is not empty. -/
theorem estimate_of_ne_nil {cs : List Char} (h : cs ≠ []) :
    estimate cs =
      max 1 (if countWords cs = 0 then byteLength cs / 4 else 13 * countWords cs / 10) := by
  rw [estimate, if_neg (by simpa using h)]
  rfl

/-- **More than some tokens**: the text has the words for them, or the bytes and no words. -/
theorem lt_estimate_iff {tokens : Nat} {cs : List Char} (hpos : 0 < tokens) :
    tokens < estimate cs ↔
      countWords cs = 0 ∧ 4 * (tokens + 1) ≤ byteLength cs ∨
        10 * (tokens + 1) ≤ 13 * countWords cs := by
  by_cases hcs : cs = []
  · subst hcs
    simp [countWords, countWordsFrom]
  · rw [estimate_of_ne_nil hcs]
    split <;> omega

/-- A text with more than some tokens has the bytes or the words for them. -/
theorem of_lt_estimate {tokens : Nat} {cs : List Char} (hpos : 0 < tokens)
    (h : tokens < estimate cs) :
    4 * (tokens + 1) ≤ byteLength cs ∨ 10 * (tokens + 1) ≤ 13 * countWords cs :=
  ((lt_estimate_iff hpos).mp h).imp_left And.right

/-- A text within a budget has few enough words. -/
theorem words_lt_of_estimate_le {tokens : Nat} {cs : List Char} (hpos : 0 < tokens)
    (h : estimate cs ≤ tokens) : 13 * countWords cs < 10 * (tokens + 1) := by
  by_contra hmany
  have hlong := (lt_estimate_iff hpos).mpr (Or.inr (Nat.le_of_not_lt hmany))
  omega

/-- **A text with at most the bytes of a budget** is within the budget exactly when it has few
enough words. -/
theorem estimate_le_iff_words_lt {tokens : Nat} {cs : List Char} (hpos : 0 < tokens)
    (hbytes : byteLength cs ≤ 4 * tokens) :
    estimate cs ≤ tokens ↔ 13 * countWords cs < 10 * (tokens + 1) := by
  refine ⟨words_lt_of_estimate_le hpos, ?_⟩
  intro hfew
  by_contra hlong
  rcases (lt_estimate_iff hpos).mp (Nat.lt_of_not_le hlong) with ⟨-, hmore⟩ | hmany <;> omega

/-- A text with at most the bytes of a budget has at most 2.6 times its tokens. -/
theorem ten_mul_estimate_le {tokens : Nat} {cs : List Char} (hpos : 0 < tokens)
    (hbytes : byteLength cs ≤ 4 * tokens) : 10 * estimate cs ≤ 26 * tokens := by
  have hwords : 2 * countWords cs ≤ byteLength cs + 1 := two_mul_countWordsFrom_le false cs
  have hlong : ¬ 26 * tokens / 10 < estimate cs := by
    rw [lt_estimate_iff (by omega)]
    omega
  omega

/-- A text has no more tokens than bytes. -/
theorem estimate_le_byteLength (cs : List Char) : estimate cs ≤ byteLength cs := by
  cases cs with
  | nil => rfl
  | cons c rest =>
      have hsize := c.utf8Size_pos
      have hwords := two_mul_countWords_cons_le c rest
      rw [estimate_of_ne_nil (List.cons_ne_nil c rest), byteLength_cons]
      split <;> omega

/-- **Two texts in a row** have at most one token more than both of them: their tokens are rounded
down once instead of twice. -/
theorem estimate_append_le (xs ys : List Char) :
    estimate (xs ++ ys) ≤ estimate xs + estimate ys + 1 := by
  by_cases hxs : xs = []
  · simp [hxs]
  · by_cases hys : ys = []
    · simp [hys]
    · have hne : xs ++ ys ≠ [] := by simp [hxs]
      have hwords := countWords_append_le xs ys
      -- Without a word in the whole there is none in a part, and all three count bytes.
      have hnone : countWords (xs ++ ys) = 0 → countWords xs = 0 ∧ countWords ys = 0 := by
        simp only [countWords_eq_zero_iff, List.forall_mem_append]
        exact id
      rw [estimate_of_ne_nil hxs, estimate_of_ne_nil hys, estimate_of_ne_nil hne, byteLength_append]
      by_cases h : countWords (xs ++ ys) = 0
      · rw [if_pos h, if_pos (hnone h).1, if_pos (hnone h).2]
        omega
      · rw [if_neg h]
        split <;> split <;> omega

/-- **A text that goes on** has no fewer tokens, when it has words from the start or none at all:
without words a text may have many bytes, and the first word makes them count for nothing. -/
theorem estimate_le_estimate_append {xs ys : List Char}
    (h : 0 < countWords xs ∨ countWords (xs ++ ys) = 0) : estimate xs ≤ estimate (xs ++ ys) := by
  by_cases hxs : xs = []
  · rw [hxs, estimate_nil]
    exact Nat.zero_le _
  · have hne : xs ++ ys ≠ [] := by simp [hxs]
    have hwords := max_countWords_le xs ys
    rw [estimate_of_ne_nil hxs, estimate_of_ne_nil hne, byteLength_append]
    rcases h with hword | hnone
    · rw [if_neg (by omega), if_neg (by omega)]
      omega
    · rw [if_pos hnone, if_pos (by omega)]
      omega

/-- **The words and the tokens of two texts in a row.** A word that they share counts once, so that
they have one word less than both of them or none less, and no fewer than either of them. Their
tokens are at most one more than those of both, and no fewer than those of the first text when that
has a word or both of them together have none. -/
theorem estimate_append_bounds (xs ys : List Char) :
    countWords (xs ++ ys) + (if ShareWord xs ys then 1 else 0) = countWords xs + countWords ys ∧
      countWords xs + countWords ys - 1 ≤ countWords (xs ++ ys) ∧
      countWords (xs ++ ys) ≤ countWords xs + countWords ys ∧
      max (countWords xs) (countWords ys) ≤ countWords (xs ++ ys) ∧
      estimate (xs ++ ys) ≤ estimate xs + estimate ys + 1 ∧
      (0 < countWords xs ∨ countWords (xs ++ ys) = 0 → estimate xs ≤ estimate (xs ++ ys)) :=
  ⟨countWords_append xs ys, Nat.sub_le_of_le_add (le_countWords_append_add_one xs ys),
    countWords_append_le xs ys, max_countWords_le xs ys, estimate_append_le xs ys,
    estimate_le_estimate_append⟩

/-- Two texts that share a word, the second of which begins with a hyphen. -/
theorem estimate_append_bounds_of_shared :
    0 < countWords "a well".toList ∧ ShareWord "a well".toList "-known fact".toList ∧
      countWords ("a well".toList ++ "-known fact".toList) = 3 ∧
      countWords "a well".toList + countWords "-known fact".toList = 4 ∧
      estimate "a well".toList ≤ estimate ("a well".toList ++ "-known fact".toList) := by
  have hword : 0 < countWords "a well".toList := by decide
  exact ⟨hword, by decide, by decide, by decide,
    (estimate_append_bounds "a well".toList "-known fact".toList).2.2.2.2.2 (Or.inl hword)⟩

end Courseware.Token
