import Mathlib.Data.Nat.Find
import Courseware.Context.Truncation
import Courseware.Proofs.Chunk.Boundary
import Courseware.Proofs.Text.Cut
import Courseware.Proofs.Text.Trim
import Courseware.Proofs.Token

/-! # Truncations and what is left of a text

A truncation has at most the tokens it is allowed (`estimate_truncate_le`), and it is the text
itself or a trimmed start of it (`truncate_cases`). Nothing may be left of a text that begins with
blanks, when they fill the first cut or it ends at a space behind them (`TrimmedAway`). The later
cuts are harmless: what has too many tokens has so many words that nine tenths of it still hold one
(`truncate_eq_nil_iff`). The limit that is cut at is that of the first **round** that leaves few
enough tokens, and there are no more rounds than bytes allowed (`truncate_ends`). -/

namespace Courseware.Truncation

open Text Boundary

/-! ## One cut -/

/-- **A text that one cut trims away**: only blanks fit the limit, or only blanks stand before the
last space that does, which is near the limit and is not followed by a sentence mark. -/
def TrimmedAway (limit : Nat) (cs : List Char) : Prop :=
  isBlankText (takeBytes limit cs) = true ∨
    (takeBytes limit cs).any isSentenceMark = false ∧
      isBlankText (beforeLast (· == ' ') (takeBytes limit cs)) = true ∧
      9 * limit < 10 * byteLength (beforeLast (· == ' ') (takeBytes limit cs))

instance (limit : Nat) (cs : List Char) : Decidable (TrimmedAway limit cs) :=
  inferInstanceAs (Decidable (_ ∨ _))

/-- A cut is the trimmed start of a text within the limit. -/
theorem exists_cut_eq_trim (limit : Nat) (cs : List Char) :
    ∃ part, part <+: takeBytes limit cs ∧ cut limit cs = trim part := by
  rw [cut]
  split
  · exact ⟨_, upToLast_isPrefix _ _, rfl⟩
  · split
    · exact ⟨_, beforeLast_isPrefix _ _, rfl⟩
    · exact ⟨_, List.prefix_refl _, rfl⟩

/-- The sentences of a text are not blank. -/
theorem isBlankText_sentence {cs : List Char}
    (h : upToLast isSentenceMark cs ≠ []) :
    isBlankText (upToLast isSentenceMark cs) = false := by
  rcases upToLast_cases isSentenceMark cs with ⟨hnil, -⟩ | ⟨xs, c, ys, -, hc, -, hup⟩
  · exact absurd hnil h
  · rw [hup]
    simp [isBlank_eq_false_of_isSentenceMark hc]

/-- Sentences that end behind the blanks at the start of a text go beyond its last space, when only
blanks stand before that space. -/
theorem byteLength_phrase_lt_sentence {cs : List Char}
    (hphrase : beforeLast (· == ' ') cs ≠ [])
    (hblank : isBlankText (beforeLast (· == ' ') cs) = true)
    (hmark : ∃ c ∈ cs, isSentenceMark c = true) :
    byteLength (beforeLast (· == ' ') cs) + 1 <
      byteLength (upToLast isSentenceMark cs) := by
  obtain ⟨mark, hmem, hc⟩ := hmark
  have hmarkBlank := isBlank_eq_false_of_isSentenceMark hc
  rcases beforeLast_cases (· == ' ') cs with ⟨hnil, -⟩ | ⟨space, ys, hcs, hspace, -⟩
  · exact absurd hnil hphrase
  · obtain rfl : space = ' ' := by simpa using hspace
    generalize beforeLast (· == ' ') cs = phrase at hcs hblank ⊢
    subst hcs
    -- The mark is no blank, so it can only stand behind the space.
    have hbehind : mark ∈ ys := by
      rcases List.mem_append.mp hmem with hin | hin
      · rw [isBlankText_iff.mp hblank mark hin] at hmarkBlank
        cases hmarkBlank
      · rcases List.mem_cons.mp hin with rfl | hys
        · cases hmarkBlank
        · exact hys
    obtain ⟨us, vs, rfl⟩ := List.append_of_mem hbehind
    have hreach := byteLength_le_of_isPrefix (prefix_upToLast (phrase ++ ' ' :: us) vs hc)
    have hmarkSize := mark.utf8Size_pos
    have hspaceSize := Char.utf8Size_pos ' '
    simp only [List.append_assoc, List.cons_append, byteLength_append, byteLength_cons,
      byteLength_nil] at hreach ⊢
    omega

/-- **A cut leaves nothing** exactly of a text that it trims away. -/
theorem cut_eq_nil_iff {limit : Nat} {cs : List Char} :
    cut limit cs = [] ↔ TrimmedAway limit cs := by
  rw [cut, TrimmedAway, ← beforeLast]
  generalize takeBytes limit cs = window
  split
  · -- The cut ends with a sentence mark, so it has something, and so has the window.
    rename_i hsentence
    have hne : upToLast isSentenceMark window ≠ [] := fun hnil => by
      rw [hnil, byteLength_nil] at hsentence
      omega
    have hcontent := isBlankText_sentence hne
    constructor
    · intro h
      rw [trim_eq_nil_iff, hcontent] at h
      cases h
    · rintro (h | ⟨hnone, -, -⟩)
      · rw [isBlankText_of_isPrefix (upToLast_isPrefix _ _) h] at hcontent
        cases hcontent
      · rcases upToLast_cases isSentenceMark window with ⟨hnil, -⟩ | hmark
        · exact absurd hnil hne
        · obtain ⟨xs, c, ys, rfl, hc, -, -⟩ := hmark
          exact absurd hc (List.any_eq_false.mp hnone c (by simp))
  · rename_i hsentence
    split
    · -- The cut ends before a space. A sentence mark behind it would have come first.
      rename_i hphrase
      have hne : beforeLast (· == ' ') window ≠ [] := fun hnil => by
        rw [hnil, byteLength_nil] at hphrase
        omega
      rw [trim_eq_nil_iff]
      constructor
      · intro h
        refine Or.inr ⟨List.any_eq_false.mpr fun c hmem hmark => ?_, h, hphrase⟩
        have hlt := byteLength_phrase_lt_sentence hne h ⟨c, hmem, hmark⟩
        omega
      · rintro (h | ⟨-, h, -⟩)
        · exact isBlankText_of_isPrefix (beforeLast_isPrefix _ _) h
        · exact h
    · rename_i hphrase
      rw [trim_eq_nil_iff]
      constructor
      · intro h
        exact Or.inl h
      · rintro (h | ⟨-, -, hlong⟩)
        · exact h
        · exact absurd hlong hphrase

/-! ## The shrinking limit -/

/-- What a cut leaves that has more than some tokens: the text's first character that is not blank,
the blanks before it, and what the words after it take up. -/
theorem exists_lead_of_lt_estimate_cut {maxTokens limit : Nat} {cs : List Char}
    (hpos : 0 < maxTokens) (hlimit : limit ≤ 4 * maxTokens)
    (hlong : maxTokens < Token.estimate (cut limit cs)) :
    ∃ lead c rest used, cs = lead ++ c :: rest ∧ isBlankText lead = true ∧ isBlank c = false ∧
      byteLength lead + c.utf8Size + used ≤ limit ∧ 20 * (maxTokens + 1) ≤ 13 * (used + 2) := by
  obtain ⟨part, hpart, hcut⟩ := exists_cut_eq_trim limit cs
  have hcontent : isBlankText part = false := by
    by_contra hblank
    rw [hcut, trim_eq_nil_iff.mpr (by simpa using hblank), Token.estimate_nil] at hlong
    omega
  obtain ⟨lead, c, tail, rfl, hlead, hc⟩ := exists_eq_append_cons hcontent
  obtain ⟨rest, hrest⟩ := hpart.trans (takeBytes_isPrefix limit cs)
  have hfits := (byteLength_le_of_isPrefix hpart).trans (byteLength_takeBytes_le limit cs)
  refine ⟨lead, c, tail ++ rest, byteLength tail, ?_, hlead, hc, ?_, ?_⟩
  · rw [← hrest, List.append_assoc, List.cons_append]
  · simpa [Nat.add_assoc] using hfits
  · rw [hcut, trim_append_of_isBlankText _ hlead, trim_cons tail hc] at hlong
    obtain ⟨trail, htrail, -⟩ := exists_eq_trimEnd_append tail
    have hsize := congrArg byteLength htrail
    have hwords := Token.two_mul_countWords_cons_le c (trimEnd tail)
    rw [byteLength_append] at hsize
    simp only [byteLength_append, byteLength_cons] at hfits
    -- Without words the part would be longer than the limit, so it has the words.
    rcases Token.of_lt_estimate hpos hlong with hbytes | hmany
    · rw [byteLength_cons] at hbytes
      omega
    · omega

/-- **Nine tenths of a limit leave something** when the limit leaves too many tokens: the words
that are too many stand behind the text's first character that is not blank. -/
theorem cut_ne_nil_of_lt_estimate {maxTokens limit : Nat} {cs : List Char} (hpos : 0 < maxTokens)
    (hlimit : limit ≤ 4 * maxTokens) (hlong : maxTokens < Token.estimate (cut limit cs)) :
    cut (limit * 9 / 10) cs ≠ [] := by
  obtain ⟨lead, c, rest, used, rfl, hlead, hc, hfits, hused⟩ :=
    exists_lead_of_lt_estimate_cut hpos hlimit hlong
  rw [Ne, cut_eq_nil_iff]
  rintro (hblank | ⟨-, hblank, hlast⟩)
  · -- The character fits the smaller limit.
    have hstart : lead ++ [c] <+: takeBytes (limit * 9 / 10) (lead ++ c :: rest) := by
      refine prefix_takeBytes ⟨rest, by simp⟩ ?_
      simp only [byteLength_append, byteLength_cons, byteLength_nil]
      omega
    have hboth := isBlankText_of_isPrefix hstart hblank
    simp [hc] at hboth
  · -- The blanks before the character are too short to reach the last tenth.
    have hphrase := (beforeLast_isPrefix (· == ' ') _).trans
      (takeBytes_isPrefix (limit * 9 / 10) (lead ++ c :: rest))
    have hshort := byteLength_le_of_isPrefix (isPrefix_of_isBlankText hc hphrase hblank)
    have hsize := c.utf8Size_pos
    omega

/-- The cuts of a text that leave something at first do so to the end. -/
theorem shrink_ne_nil {maxTokens limit : Nat} {cs : List Char} (hpos : 0 < maxTokens)
    (hlimit : limit ≤ 4 * maxTokens) (h : cut limit cs ≠ []) : shrink maxTokens limit cs ≠ [] := by
  induction limit using Nat.strong_induction_on with
  | _ limit ih =>
      rw [shrink]
      split
      · exact h
      · rename_i hstop
        obtain ⟨hlimitPos, hlong⟩ := not_or.mp hstop
        refine ih (limit * 9 / 10) (by omega) (by omega) ?_
        exact cut_ne_nil_of_lt_estimate hpos hlimit (Nat.lt_of_not_le hlong)

/-- The cuts end with a part that has at most the tokens allowed. -/
theorem estimate_shrink_le (maxTokens limit : Nat) (cs : List Char) :
    Token.estimate (shrink maxTokens limit cs) ≤ maxTokens := by
  induction limit using Nat.strong_induction_on with
  | _ limit ih =>
      rw [shrink]
      split
      · rename_i hstop
        rcases hstop with rfl | hshort
        · obtain ⟨part, hpart, hcut⟩ := exists_cut_eq_trim 0 cs
          have hnil : part = [] := by
            apply byteLength_eq_zero_iff.mp
            have hfits := byteLength_le_of_isPrefix hpart
            have hzero := byteLength_takeBytes_le 0 cs
            omega
          rw [hcut, hnil]
          exact Nat.zero_le _
        · exact hshort
      · exact ih (limit * 9 / 10) (by omega)

/-- The cuts end with the trimmed start of the text. -/
theorem exists_shrink_eq_trim (maxTokens limit : Nat) (cs : List Char) :
    ∃ part, part <+: cs ∧ shrink maxTokens limit cs = trim part := by
  induction limit using Nat.strong_induction_on with
  | _ limit ih =>
      rw [shrink]
      split
      · obtain ⟨part, hpart, hcut⟩ := exists_cut_eq_trim limit cs
        exact ⟨part, hpart.trans (takeBytes_isPrefix limit cs), hcut⟩
      · exact ih (limit * 9 / 10) (by omega)

/-! ## Truncations -/

/-- **A truncation has at most the tokens it is allowed.** -/
theorem estimate_truncate_le (maxTokens : Nat) (cs : List Char) :
    Token.estimate (truncate maxTokens cs) ≤ maxTokens := by
  rw [truncate]
  split
  · assumption
  · exact estimate_shrink_le _ _ _

/-- A truncation is the text, or a trimmed start of it. -/
theorem truncate_cases (maxTokens : Nat) (cs : List Char) :
    truncate maxTokens cs = cs ∨ ∃ part, part <+: cs ∧ truncate maxTokens cs = trim part := by
  rw [truncate]
  split
  · exact Or.inl rfl
  · exact Or.inr (exists_shrink_eq_trim _ _ _)

/-- A truncation that leaves something of a text that is not blank is not blank. -/
theorem isBlankText_truncate_iff {maxTokens : Nat} {cs : List Char} (h : isBlankText cs = false) :
    isBlankText (truncate maxTokens cs) = true ↔ truncate maxTokens cs = [] := by
  constructor
  · intro hblank
    rcases truncate_cases maxTokens cs with hwhole | ⟨part, -, htrim⟩
    · rw [hwhole, h] at hblank
      cases hblank
    · rw [htrim, isBlankText_trim] at hblank
      rw [htrim, trim_eq_nil_iff.mpr hblank]
  · intro hnil
    rw [hnil, isBlankText_nil]

/-- **A truncation leaves nothing** exactly of a text that is too long and that the first cut trims
away. -/
theorem truncate_eq_nil_iff {maxTokens : Nat} {cs : List Char} (hpos : 0 < maxTokens)
    (hcs : cs ≠ []) :
    truncate maxTokens cs = [] ↔
      maxTokens < Token.estimate cs ∧ TrimmedAway (Token.toBytes maxTokens) cs := by
  rw [truncate, ← cut_eq_nil_iff]
  split
  · rename_i hshort
    exact ⟨fun hnil => absurd hnil hcs, fun ⟨hlong, _⟩ => absurd hshort (Nat.not_le_of_lt hlong)⟩
  · rename_i hlong
    constructor
    · intro hnil
      refine ⟨Nat.lt_of_not_le hlong, ?_⟩
      by_contra hcut
      exact shrink_ne_nil hpos (Token.toBytes_le maxTokens) hcut hnil
    · rintro ⟨-, hcut⟩
      rw [shrink, dif_pos (Or.inr (by simp [hcut]))]
      exact hcut

/-- A text that begins with a character that is not blank is not trimmed away. -/
theorem truncate_cons_ne_nil {maxTokens : Nat} {c : Char} (cs : List Char) (hpos : 0 < maxTokens)
    (hc : isBlank c = false) : truncate maxTokens (c :: cs) ≠ [] := by
  rw [Ne, truncate_eq_nil_iff hpos (List.cons_ne_nil c cs)]
  rintro ⟨-, hblank | ⟨-, hblank, hlast⟩⟩
  · have hne := takeBytes_ne_nil (Token.four_le_toBytes hpos) (List.cons_ne_nil c cs)
    exact hne (eq_nil_of_isBlankText hc (takeBytes_isPrefix _ (c :: cs)) hblank)
  · have hphrase := (beforeLast_isPrefix (· == ' ') _).trans
      (takeBytes_isPrefix (Token.toBytes maxTokens) (c :: cs))
    rw [eq_nil_of_isBlankText hc hphrase hblank, byteLength_nil] at hlast
    omega

/-! ## Rounds -/

/-- The limit of a round; rounds count from zero, and each takes a tenth off. -/
def limitOf (maxTokens : Nat) : Nat → Nat
  | 0 => Token.toBytes maxTokens
  | round + 1 => limitOf maxTokens round * 9 / 10

/-- **A limit that is cut at**: there is nothing to take off, or the cut leaves few enough tokens. -/
def Suffices (maxTokens : Nat) (cs : List Char) (limit : Nat) : Prop :=
  limit = 0 ∨ Token.estimate (cut limit cs) ≤ maxTokens

instance (maxTokens : Nat) (cs : List Char) (limit : Nat) : Decidable (Suffices maxTokens cs limit) :=
  inferInstanceAs (Decidable (_ ∨ _))

/-- Limits get smaller. -/
theorem limitOf_add_le (maxTokens round : Nat) :
    limitOf maxTokens round + round ≤ Token.toBytes maxTokens ∨ limitOf maxTokens round = 0 := by
  induction round with
  | zero => exact Or.inl (Nat.le_refl _)
  | succ round ih =>
      rw [limitOf]
      omega

/-- No limit is greater than the bytes that the tokens are worth. -/
theorem limitOf_le (maxTokens round : Nat) : limitOf maxTokens round ≤ Token.toBytes maxTokens := by
  rcases limitOf_add_le maxTokens round with h | h <;> omega

/-- **The limits end**: one of them is the first that suffices, after no more rounds than there are
bytes. -/
theorem exists_rounds (maxTokens : Nat) (cs : List Char) :
    ∃ rounds ≤ Token.toBytes maxTokens, Suffices maxTokens cs (limitOf maxTokens rounds) ∧
      ∀ earlier < rounds, ¬ Suffices maxTokens cs (limitOf maxTokens earlier) := by
  have hlast : Suffices maxTokens cs (limitOf maxTokens (Token.toBytes maxTokens)) := by
    refine Or.inl ?_
    rcases limitOf_add_le maxTokens (Token.toBytes maxTokens) with h | h <;> omega
  have hexists : ∃ rounds, Suffices maxTokens cs (limitOf maxTokens rounds) := ⟨_, hlast⟩
  exact ⟨Nat.find hexists, Nat.find_min' hexists hlast, Nat.find_spec hexists,
    fun _ hlt => Nat.find_min hexists hlt⟩

/-- The cuts end at a limit that suffices. -/
theorem shrink_of_suffices {maxTokens limit : Nat} {cs : List Char}
    (h : Suffices maxTokens cs limit) : shrink maxTokens limit cs = cut limit cs := by
  rw [shrink]
  exact dif_pos h

/-- The cuts go on at nine tenths of a limit that does not suffice. -/
theorem shrink_of_not_suffices {maxTokens limit : Nat} {cs : List Char}
    (h : ¬ Suffices maxTokens cs limit) :
    shrink maxTokens limit cs = shrink maxTokens (limit * 9 / 10) cs := by
  rw [shrink]
  exact dif_neg h

/-- The cuts go on at the limits that leave too many tokens. -/
theorem shrink_toBytes {maxTokens round : Nat} {cs : List Char}
    (h : ∀ earlier < round, ¬ Suffices maxTokens cs (limitOf maxTokens earlier)) :
    shrink maxTokens (Token.toBytes maxTokens) cs = shrink maxTokens (limitOf maxTokens round) cs := by
  induction round with
  | zero => rfl
  | succ round ih =>
      rw [ih fun earlier hlt => h earlier (by omega), limitOf]
      exact shrink_of_not_suffices (h round (Nat.lt_succ_self round))

/-- **The truncation of a text that is too long** is its cut at the first limit that suffices. -/
theorem truncate_eq_cut {maxTokens rounds : Nat} {cs : List Char}
    (hlong : maxTokens < Token.estimate cs)
    (hlast : Suffices maxTokens cs (limitOf maxTokens rounds))
    (hearlier : ∀ earlier < rounds, ¬ Suffices maxTokens cs (limitOf maxTokens earlier)) :
    truncate maxTokens cs = cut (limitOf maxTokens rounds) cs := by
  rw [truncate, if_neg (Nat.not_le_of_lt hlong), shrink_toBytes hearlier]
  exact shrink_of_suffices hlast

/-- Nine times a limit fits a machine word, unless the text has more bytes than any machine. -/
theorem nine_mul_limitOf_le {maxTokens : Nat} {cs : List Char} (hlong : maxTokens < Token.estimate cs)
    (hbytes : byteLength cs < Nat.pow 2 58) (round : Nat) :
    limitOf maxTokens round * 9 ≤ Token.maxSize := by
  have hlimit := limitOf_le maxTokens round
  have hworth := Token.toBytes_le maxTokens
  have hestimate := Token.estimate_le_byteLength cs
  have hmax : Token.maxSize = 18446744073709551615 := rfl
  have hpow : Nat.pow 2 58 = 288230376151711744 := rfl
  omega

/-- **Truncation ends with few enough tokens, and leaves the text or a trimmed start of it.** A text
that has too many tokens is cut at the first limit that suffices, and computing the limits does not
overflow. Something is left when a token is allowed and the text begins with a character that is not
blank. -/
theorem truncate_ends (maxTokens : Nat) (cs : List Char) :
    (truncate maxTokens cs = cs ∧ Token.estimate cs ≤ maxTokens ∨
      maxTokens < Token.estimate cs ∧ ∃ rounds ≤ Token.toBytes maxTokens,
        Suffices maxTokens cs (limitOf maxTokens rounds) ∧
        (∀ earlier < rounds, ¬ Suffices maxTokens cs (limitOf maxTokens earlier)) ∧
        truncate maxTokens cs = cut (limitOf maxTokens rounds) cs ∧
        (byteLength cs < Nat.pow 2 58 →
          ∀ round, limitOf maxTokens round * 9 ≤ Token.maxSize)) ∧
      Token.estimate (truncate maxTokens cs) ≤ maxTokens ∧
      (truncate maxTokens cs = cs ∨
        ∃ offset, IsBoundary cs offset ∧ truncate maxTokens cs = trim (takeBytes offset cs)) ∧
      (0 < maxTokens → (∀ c ∈ cs.head?, isBlank c = false) →
        (truncate maxTokens cs = [] ↔ cs = [])) := by
  refine ⟨?_, estimate_truncate_le maxTokens cs, ?_, fun hpos hfirst => ?_⟩
  · rcases Nat.lt_or_ge maxTokens (Token.estimate cs) with hlong | hshort
    · obtain ⟨rounds, hle, hlast, hearlier⟩ := exists_rounds maxTokens cs
      exact Or.inr ⟨hlong, rounds, hle, hlast, hearlier, truncate_eq_cut hlong hlast hearlier,
        nine_mul_limitOf_le hlong⟩
    · exact Or.inl ⟨if_pos hshort, hshort⟩
  · rcases truncate_cases maxTokens cs with hwhole | ⟨part, hpart, htrim⟩
    · exact Or.inl hwhole
    · obtain ⟨rest, rfl⟩ := hpart
      refine Or.inr ⟨byteLength part, ⟨part, List.prefix_append _ _, rfl⟩, ?_⟩
      rw [htrim, takeBytes_append]
  · cases cs with
    | nil => exact iff_of_true (by rw [truncate]; rfl) rfl
    | cons c rest =>
        have hc := hfirst c (Option.mem_some.mpr rfl)
        exact iff_of_false (truncate_cons_ne_nil rest hpos hc) (List.cons_ne_nil c rest)

end Courseware.Truncation
