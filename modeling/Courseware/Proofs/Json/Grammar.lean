import Courseware.Proofs.Json.Reader
import Courseware.Proofs.Json.Spelling
import Courseware.Proofs.Steps

/-! # The grammar of JSON

How a value is **spelled** (`Spells`), from its first character to its last: a number or a word by
characters of these alone, a text between quotes, an array or an object by the spelling of what is
inside it, with gaps wherever they are allowed.

* **The reader reads what is spelled**: a text holds one value exactly when it is a spelling of the
  value with gaps around it (`parse_eq_ok_iff`).
-/

namespace Courseware.Json

/-! ## Gaps -/

/-- A text of gaps alone. -/
def IsGaps (cs : List Char) : Prop := ∀ c ∈ cs, isGap c = true

variable {gap cs rest : List Char} {c : Char}

/-- There need not be gaps. -/
theorem isGaps_nil : IsGaps [] := List.forall_mem_nil _

/-- Gaps are skipped. -/
theorem skipGap_append (h : IsGaps gap) (cs : List Char) : skipGap (gap ++ cs) = skipGap cs :=
  List.dropWhile_append_of_pos h

/-- Gaps are skipped up to a character that is no gap. -/
theorem skipGap_append_cons (h : IsGaps gap) (hc : isGap c = false) (cs : List Char) :
    skipGap (gap ++ c :: cs) = c :: cs := by
  rw [skipGap_append h, skipGap_cons hc]

/-- What is skipped are gaps. -/
theorem exists_gap_of_skipGap (h : skipGap cs = rest) : ∃ gap, cs = gap ++ rest ∧ IsGaps gap :=
  ⟨cs.takeWhile isGap, by rw [← h, skipGap, List.takeWhile_append_dropWhile],
    fun _ hc => List.mem_takeWhile_imp hc⟩

/-- A gap belongs to no number and no word. -/
theorem isScalar_of_isGap (h : isGap c = true) : isScalar c = false := by
  simp only [isGap, Bool.or_eq_true, beq_iff_eq] at h
  rcases h with ((rfl | rfl) | rfl) | rfl <;> decide

/-- Numbers and words stop before gaps and another character. -/
theorem stops_append_cons (h : IsGaps gap) (hc : isScalar c = false) (cs : List Char) :
    Stops (gap ++ c :: cs) := by
  cases gap with
  | nil => exact (stops_cons cs).mpr hc
  | cons d gap => exact (stops_cons _).mpr (isScalar_of_isGap (h d List.mem_cons_self))

/-- Numbers and words stop before gaps at the end of a text. -/
theorem stops_of_isGaps (h : IsGaps gap) : Stops gap := by
  cases gap with
  | nil => exact stops_nil
  | cons d gap => exact (stops_cons _).mpr (isScalar_of_isGap (h d List.mem_cons_self))

/-! ## Spellings -/

/-- **How a text is spelled** between its quotes: by a part without newlines that is read the same
whatever is behind the closing quote. -/
def SpellsText (body : List Char) (s : String) : Prop :=
  '\n' ∉ body ∧ ∀ rest, Reads quotedText (body ++ '"' :: rest) s rest

/-- **How a number or a word is spelled**: by characters of these alone that are read the same
wherever a number or a word stops. -/
structure SpellsScalar (used : List Char) (json : Json) : Prop where
  /-- There is a character. -/
  ne_nil : used ≠ []
  /-- All are characters of numbers and words. -/
  scalar : ∀ c ∈ used, isScalar c = true
  /-- They are read behind gaps. -/
  reads : ∀ depth cs rest, skipGap cs = used ++ rest → Stops rest → Reads (value depth) cs json rest

section Parts

variable {α : Type} (closing : Char) (Part : List Char → α → Prop)

/-- **How the parts behind a part are spelled**, each behind a comma, with the closing bracket. -/
inductive SpellsBehind : List Char → List α → Prop where
  /-- There are none. -/
  | close {gap : List Char} (hgap : IsGaps gap) : SpellsBehind (gap ++ [closing]) []
  /-- A comma, a part, and the parts behind it. -/
  | comma {gap used behind : List Char} {part : α} {parts : List α} (hgap : IsGaps gap)
      (hpart : Part used part) (hbehind : SpellsBehind behind parts) :
      SpellsBehind (gap ++ ',' :: (used ++ behind)) (part :: parts)

/-- **How the parts of an array or an object are spelled** behind the opening bracket, with the
closing one. -/
inductive SpellsParts : List Char → List α → Prop where
  /-- There are none. -/
  | none {gap : List Char} (hgap : IsGaps gap) : SpellsParts (gap ++ [closing]) []
  /-- A part, and the parts behind it. -/
  | some {used behind : List Char} {part : α} {parts : List α} (hpart : Part used part)
      (hbehind : SpellsBehind closing Part behind parts) :
      SpellsParts (used ++ behind) (part :: parts)

variable (Inner : List Char → Json → Prop)

/-- **How an item of an array is spelled**: gaps and the value. -/
inductive SpellsItem : List Char → Json → Prop where
  | mk {lead used : List Char} {json : Json} (hlead : IsGaps lead) (hvalue : Inner used json) :
      SpellsItem (lead ++ used) json

/-- **How a member of an object is spelled**: gaps, its name in quotes, a colon and the value. -/
inductive SpellsMember : List Char → String × Json → Prop where
  | mk {lead name gap used : List Char} {s : String} {json : Json} (hlead : IsGaps lead)
      (hname : SpellsText name s) (hgap : IsGaps gap) (hvalue : SpellsItem Inner used json) :
      SpellsMember (lead ++ '"' :: (name ++ '"' :: (gap ++ ':' :: used))) (s, json)

end Parts

/-- **How a value is spelled** when the values inside it, if there may be any, are spelled in a given
way. -/
inductive SpellsOver : Option (List Char → Json → Prop) → List Char → Json → Prop where
  /-- A number or a word. -/
  | scalar {below : Option (List Char → Json → Prop)} {used : List Char} {json : Json}
      (h : SpellsScalar used json) : SpellsOver below used json
  /-- A text in quotes. -/
  | string {below : Option (List Char → Json → Prop)} {body : List Char} {s : String}
      (h : SpellsText body s) : SpellsOver below ('"' :: (body ++ ['"'])) (.string s)
  /-- An array in brackets. -/
  | array {Inner : List Char → Json → Prop} {used : List Char} {items : List Json}
      (h : SpellsParts ']' (SpellsItem Inner) used items) :
      SpellsOver (some Inner) ('[' :: used) (.array items)
  /-- An object in braces. -/
  | object {Inner : List Char → Json → Prop} {used : List Char} {members : List (String × Json)}
      (h : SpellsParts '\x7d' (SpellsMember Inner) used members) :
      SpellsOver (some Inner) ('\x7b' :: used) (.object members)

/-- **How a value is spelled** whose arrays and objects are nested at most `depth` deep. -/
def Spells : Nat → List Char → Json → Prop
  | 0 => SpellsOver none
  | depth + 1 => SpellsOver (some (Spells depth))

/-- A number or a word, however deep values may be nested. -/
theorem Spells.scalar {depth : Nat} {used : List Char} {json : Json} (h : SpellsScalar used json) :
    Spells depth used json := by
  cases depth with
  | zero => exact SpellsOver.scalar h
  | succ depth => exact SpellsOver.scalar h

/-- A text in quotes, however deep values may be nested. -/
theorem Spells.string {depth : Nat} {body : List Char} {s : String} (h : SpellsText body s) :
    Spells depth ('"' :: (body ++ ['"'])) (.string s) := by
  cases depth with
  | zero => exact SpellsOver.string h
  | succ depth => exact SpellsOver.string h

/-! ## What is read is spelled -/

/-- **A reader that finds spellings**: what it takes is a spelling of what it gives. -/
def Finds {α : Type} (reader : Reader α) (Part : List Char → α → Prop) : Prop :=
  ∀ cs read, reader cs = .ok read → ∃ used, cs = used ++ read.rest ∧ Part used read.value

/-- What is read of a text in quotes is a spelling of it. -/
theorem exists_spellsText {read : Read String cs} (h : quotedText cs = .ok read) :
    ∃ body, cs = body ++ '"' :: read.rest ∧ SpellsText body read.value := by
  unfold quotedText at h
  split at h
  · rename_i htext
    cases h
    obtain ⟨body, rfl, hline, hread⟩ := takesText_of_text htext
    exact ⟨body, rfl, hline, fun rest => reads_quotedText_of_text (hread rest)⟩
  · cases h

section Parts

variable {Inner : List Char → Json → Prop} {reader : Reader Json}
  (hreader : Finds reader (SpellsItem Inner))

include hreader

/-- What is read of the items behind an item is a spelling of them. -/
theorem finds_moreItems : Finds (moreItems reader) (SpellsBehind ']' (SpellsItem Inner)) := by
  intro cs read h
  fun_induction moreItems reader cs
  all_goals try cases h
  case case2 hclose =>
    obtain ⟨gap, rfl, hgap⟩ := exists_gap_of_skipGap hclose
    exact ⟨gap ++ [']'], by simp, .close hgap⟩
  case case7 hcomma _ first hfirst _ others hothers _ _ ih =>
    obtain ⟨gap, rfl, hgap⟩ := exists_gap_of_skipGap hcomma
    obtain ⟨used, htail, hused⟩ := hreader _ first hfirst
    obtain ⟨behind, hfollows, hbehind⟩ := ih others hothers
    rw [hfollows] at htail
    exact ⟨_, by simp [htail], .comma hgap hused hbehind⟩

/-- What is read of the items of an array is a spelling of them. -/
theorem finds_items : Finds (items reader) (SpellsParts ']' (SpellsItem Inner)) := by
  intro cs read h
  unfold items at h
  split at h
  · cases h
  · rename_i hclose
    cases h
    obtain ⟨gap, rfl, hgap⟩ := exists_gap_of_skipGap hclose
    exact ⟨gap ++ [']'], by simp, .none hgap⟩
  · obtain ⟨first, hfirst, h⟩ := bind_eq_ok_iff.mp h
    obtain ⟨others, hothers, h⟩ := bind_eq_ok_iff.mp h
    cases h
    obtain ⟨used, hcs, hused⟩ := hreader _ first hfirst
    obtain ⟨behind, hfollows, hbehind⟩ := finds_moreItems hreader _ others hothers
    rw [hfollows] at hcs
    exact ⟨_, by simpa using hcs, .some hused hbehind⟩

/-- What is read of a member behind the quote in front of its name is a spelling of it. -/
theorem exists_spellsMember {lead : List Char} (hlead : IsGaps lead)
    {read : Read (String × Json) cs} (h : member reader cs = .ok read) :
    ∃ used, lead ++ '"' :: cs = used ++ read.rest ∧ SpellsMember Inner used read.value := by
  unfold member at h
  obtain ⟨name, hname, h⟩ := bind_eq_ok_iff.mp h
  split at h
  · cases h
  · rename_i tail hcolon
    obtain ⟨found, hfound, h⟩ := bind_eq_ok_iff.mp h
    cases h
    obtain ⟨body, hcs, hbody⟩ := exists_spellsText hname
    obtain ⟨gap, hbehind, hgap⟩ := exists_gap_of_skipGap hcolon
    obtain ⟨used, htail, hused⟩ := hreader _ found hfound
    rw [hbehind, htail] at hcs
    exact ⟨_, by simpa using hcs, .mk hlead hbody hgap hused⟩
  · cases h

/-- What is read of the members behind a member is a spelling of them. -/
theorem finds_moreMembers :
    Finds (moreMembers reader) (SpellsBehind '\x7d' (SpellsMember Inner)) := by
  intro cs read h
  fun_induction moreMembers reader cs
  all_goals try cases h
  case case2 hclose =>
    obtain ⟨gap, rfl, hgap⟩ := exists_gap_of_skipGap hclose
    exact ⟨gap ++ ['\x7d'], by simp, .close hgap⟩
  case case7 tail hcomma name hquote _ _ first hfirst _ others hothers ih =>
    obtain ⟨gap, rfl, hgap⟩ := exists_gap_of_skipGap hcomma
    obtain ⟨lead, rfl, hlead⟩ := exists_gap_of_skipGap hquote
    obtain ⟨used, hname, hused⟩ := exists_spellsMember hreader hlead hfirst
    obtain ⟨behind, hfollows, hbehind⟩ := ih others hothers
    rw [hfollows] at hname
    exact ⟨_, by simp [hname], .comma hgap hused hbehind⟩

/-- What is read of the members of an object is a spelling of them. -/
theorem finds_members : Finds (members reader) (SpellsParts '\x7d' (SpellsMember Inner)) := by
  intro cs read h
  unfold members at h
  split at h
  · cases h
  · rename_i hclose
    cases h
    obtain ⟨gap, rfl, hgap⟩ := exists_gap_of_skipGap hclose
    exact ⟨gap ++ ['\x7d'], by simp, .none hgap⟩
  · rename_i name hquote
    obtain ⟨first, hfirst, h⟩ := bind_eq_ok_iff.mp h
    obtain ⟨others, hothers, h⟩ := bind_eq_ok_iff.mp h
    cases h
    obtain ⟨lead, rfl, hlead⟩ := exists_gap_of_skipGap hquote
    obtain ⟨used, hname, hused⟩ := exists_spellsMember hreader hlead hfirst
    obtain ⟨behind, hfollows, hbehind⟩ := finds_moreMembers hreader _ others hothers
    rw [hfollows] at hname
    exact ⟨_, by simpa using hname, .some hused hbehind⟩
  · cases h

end Parts

/-! ### Numbers and words -/

/-- What is read of a number is a spelling of it. -/
theorem exists_spellsScalar_of_readSigned {tail : List Char} {n : Number}
    (hc : c = '-' ∨ c.isDigit = true) (h : Number.readSigned (c :: tail) = .ok (n, rest)) :
    ∃ used, c :: tail = used ++ rest ∧ SpellsScalar used (.number n) := by
  obtain ⟨used, hcs, hused, hread⟩ := Number.takes_readSigned h
  cases used with
  | nil =>
      -- Something was read.
      have hlt := Number.length_lt_of_readSigned h
      rw [hcs, List.nil_append] at hlt
      exact absurd hlt (Nat.lt_irrefl _)
  | cons d used =>
      obtain ⟨rfl, -⟩ := List.cons.inj hcs
      refine ⟨c :: used, hcs, List.cons_ne_nil c used, hused, fun depth ds other hskip hother => ?_⟩
      exact reads_value_number depth hc hskip (reads_numeral_of_readSigned (hread other hother))

/-- What is read of a number is a spelling of the value. -/
theorem exists_spellsScalar_of_numeral {tail : List Char} {read : Read Json (c :: tail)}
    (hc : c = '-' ∨ c.isDigit = true) (h : numeral (c :: tail) = .ok read) :
    ∃ used, c :: tail = used ++ read.rest ∧ SpellsScalar used read.value := by
  unfold numeral at h
  split at h
  · rename_i hsigned
    cases h
    exact exists_spellsScalar_of_readSigned hc hsigned
  · cases h

/-- What is read of a word is the word. -/
theorem eq_append_of_word {json : Json} {first : Char} {others : List Char} {read : Read Json cs}
    (h : word json first others cs = .ok read) :
    cs = first :: others ++ read.rest ∧ read.value = json := by
  unfold word at h
  split at h
  · rename_i hletters
    cases h
    exact ⟨eq_append_of_letters hletters, rfl⟩
  · cases h

/-- How nothing is spelled. -/
theorem spellsScalar_null : SpellsScalar "null".toList .null :=
  ⟨List.cons_ne_nil _ _, List.all_eq_true.mp (by decide),
    fun depth _ _ hskip _ => reads_value_null depth hskip⟩

/-- How the truth values are spelled. -/
theorem spellsScalar_bool (b : Bool) : SpellsScalar (scalar (.bool b)) (.bool b) :=
  ⟨by cases b <;> exact List.cons_ne_nil _ _, List.all_eq_true.mp (by cases b <;> decide),
    fun depth _ _ hskip _ => reads_value_bool depth hskip⟩

/-! ### Values -/

/-- What is read of a value is a spelling of it, if that is so for the values inside it. -/
theorem finds_value_of_below {depth : Nat} {below : Option (List Char → Json → Prop)}
    (hbelow : ∀ d, depth = d + 1 → ∃ Inner, below = some Inner ∧ Finds (value d) (SpellsItem Inner)) :
    Finds (value depth) (SpellsItem (SpellsOver below)) := by
  intro cs read h
  unfold value at h
  split at h
  · cases h
  · rename_i c tail hskip
    obtain ⟨gap, rfl, hgap⟩ := exists_gap_of_skipGap hskip
    suffices ∃ used, c :: tail = used ++ read.rest ∧ SpellsOver below used read.value by
      obtain ⟨used, hused, hspells⟩ := this
      exact ⟨gap ++ used, by simpa using hused, .mk hgap hspells⟩
    simp only at h
    split at h
    · rename_i hquote
      subst hquote
      obtain ⟨found, hfound, rfl⟩ := map_eq_ok_iff.mp h
      obtain ⟨body, htail, hbody⟩ := exists_spellsText hfound
      exact ⟨_, by simpa using htail, .string hbody⟩
    · split at h
      · rename_i hbracket
        subst hbracket
        split at h
        · cases h
        · rename_i depth
          obtain ⟨Inner, rfl, hinner⟩ := hbelow depth rfl
          obtain ⟨found, hfound, rfl⟩ := map_eq_ok_iff.mp h
          obtain ⟨used, htail, hused⟩ := finds_items hinner _ found hfound
          exact ⟨_, congrArg ('[' :: ·) htail, .array hused⟩
      · split at h
        · rename_i hbrace
          subst hbrace
          split at h
          · cases h
          · rename_i depth
            obtain ⟨Inner, rfl, hinner⟩ := hbelow depth rfl
            obtain ⟨found, hfound, rfl⟩ := map_eq_ok_iff.mp h
            obtain ⟨used, htail, hused⟩ := finds_members hinner _ found hfound
            exact ⟨_, congrArg ('\x7b' :: ·) htail, .object hused⟩
        · -- What begins otherwise is a word or a number.
          split at h
          · obtain ⟨found, hfound, rfl⟩ := map_eq_ok_iff.mp h
            obtain ⟨hword, hvalue⟩ := eq_append_of_word hfound
            exact ⟨_, hword, .scalar (hvalue ▸ spellsScalar_null)⟩
          · split at h
            · obtain ⟨found, hfound, rfl⟩ := map_eq_ok_iff.mp h
              obtain ⟨hword, hvalue⟩ := eq_append_of_word hfound
              exact ⟨_, hword, .scalar (hvalue ▸ spellsScalar_bool true)⟩
            · split at h
              · obtain ⟨found, hfound, rfl⟩ := map_eq_ok_iff.mp h
                obtain ⟨hword, hvalue⟩ := eq_append_of_word hfound
                exact ⟨_, hword, .scalar (hvalue ▸ spellsScalar_bool false)⟩
              · split at h
                · rename_i hc
                  obtain ⟨found, hfound, rfl⟩ := map_eq_ok_iff.mp h
                  obtain ⟨used, htail, hused⟩ := exists_spellsScalar_of_numeral hc hfound
                  exact ⟨used, htail, .scalar hused⟩
                · cases h

/-- **What is read of a value is a spelling of it**, however deep it is nested. -/
theorem finds_value (depth : Nat) : Finds (value depth) (SpellsItem (Spells depth)) := by
  -- Items and members are values that are nested one level less deep.
  induction depth with
  | zero => exact finds_value_of_below fun d hd => absurd hd d.succ_ne_zero.symm
  | succ depth ih =>
      refine finds_value_of_below fun d hd => ?_
      cases hd
      exact ⟨_, rfl, ih⟩

/-! ## What is spelled is read -/

/-- **A reader that reads spellings** of values, wherever a number or a word stops. -/
def ReadsSpellings (reader : Reader Json) (Inner : List Char → Json → Prop) : Prop :=
  ∀ used json rest, SpellsItem Inner used json → Stops rest →
    Opens (used ++ rest) ∧ Reads reader (used ++ rest) json rest

section Parts

variable {Inner : List Char → Json → Prop} {reader : Reader Json} {used : List Char}

/-- A part stops where those behind it begin. -/
theorem SpellsBehind.stops {α : Type} {closing : Char} {Part : List Char → α → Prop} {parts : List α}
    (h : SpellsBehind closing Part used parts) (hclosing : isScalar closing = false)
    (rest : List Char) : Stops (used ++ rest) := by
  cases h with
  | close hgap =>
      rw [List.append_assoc]
      exact stops_append_cons hgap hclosing _
  | comma hgap =>
      rw [List.append_assoc]
      exact stops_append_cons hgap (by decide) _

/-- A member is read as it is spelled, from the quote in front of its name on. -/
theorem SpellsMember.reads (hreader : ReadsSpellings reader Inner) {found : String × Json}
    (h : SpellsMember Inner used found) {rest : List Char} (hrest : Stops rest) :
    ∃ tail, skipGap (used ++ rest) = '"' :: tail ∧ Reads (member reader) tail found rest := by
  cases h with
  | @mk lead name gap used s json hlead hname hgap hvalue =>
      simp only [List.append_assoc, List.cons_append]
      refine ⟨_, skipGap_append_cons hlead (by decide) _, ?_⟩
      exact reads_member (hname.2 _) (skipGap_append_cons hgap (by decide) _)
        (hreader used json rest hvalue hrest).2

/-- The items behind an item are read as they are spelled. -/
theorem reads_moreItems_of_spells (hreader : ReadsSpellings reader Inner) {items : List Json}
    (h : SpellsBehind ']' (SpellsItem Inner) used items) (rest : List Char) :
    Reads (moreItems reader) (used ++ rest) items rest := by
  induction h with
  | close hgap =>
      rw [List.append_assoc]
      exact reads_moreItems_nil (skipGap_append_cons hgap (by decide) rest)
  | comma hgap hitem hbehind ih =>
      obtain ⟨hopens, hread⟩ := hreader _ _ _ hitem (hbehind.stops (by decide) rest)
      simp only [List.append_assoc, List.cons_append]
      exact reads_moreItems_cons (skipGap_append_cons hgap (by decide) _) hopens hread ih

/-- The items of an array are read as they are spelled. -/
theorem reads_items_of_spells (hreader : ReadsSpellings reader Inner) {found : List Json}
    (h : SpellsParts ']' (SpellsItem Inner) used found) (rest : List Char) :
    Reads (items reader) (used ++ rest) found rest := by
  cases h with
  | none hgap =>
      rw [List.append_assoc]
      exact reads_items_nil (skipGap_append_cons hgap (by decide) rest)
  | some hitem hbehind =>
      obtain ⟨hopens, hread⟩ := hreader _ _ _ hitem (hbehind.stops (by decide) rest)
      rw [List.append_assoc]
      exact reads_items_cons hopens hread (reads_moreItems_of_spells hreader hbehind rest)

/-- The members behind a member are read as they are spelled. -/
theorem reads_moreMembers_of_spells (hreader : ReadsSpellings reader Inner)
    {others : List (String × Json)} (h : SpellsBehind '\x7d' (SpellsMember Inner) used others)
    (rest : List Char) : Reads (moreMembers reader) (used ++ rest) others rest := by
  induction h with
  | close hgap =>
      rw [List.append_assoc]
      exact reads_moreMembers_nil (skipGap_append_cons hgap (by decide) rest)
  | comma hgap hmember hbehind ih =>
      obtain ⟨tail, hquote, hread⟩ := hmember.reads hreader (hbehind.stops (by decide) rest)
      simp only [List.append_assoc, List.cons_append]
      exact reads_moreMembers_cons (skipGap_append_cons hgap (by decide) _) hquote hread ih

/-- The members of an object are read as they are spelled. -/
theorem reads_members_of_spells (hreader : ReadsSpellings reader Inner)
    {found : List (String × Json)} (h : SpellsParts '\x7d' (SpellsMember Inner) used found)
    (rest : List Char) : Reads (members reader) (used ++ rest) found rest := by
  cases h with
  | none hgap =>
      rw [List.append_assoc]
      exact reads_members_nil (skipGap_append_cons hgap (by decide) rest)
  | some hmember hbehind =>
      obtain ⟨tail, hquote, hread⟩ := hmember.reads hreader (hbehind.stops (by decide) rest)
      rw [List.append_assoc]
      exact reads_members_cons hquote hread (reads_moreMembers_of_spells hreader hbehind rest)

end Parts

section Values

variable {below : Option (List Char → Json → Prop)} {used : List Char} {json : Json} {depth : Nat}

/-- A value begins with a character that is no gap and closes no array. -/
theorem SpellsOver.exists_cons (h : SpellsOver below used json) :
    ∃ c tail, used = c :: tail ∧ isGap c = false ∧ c ≠ ']' := by
  cases h with
  | string h => exact ⟨'"', _, rfl, rfl, by decide⟩
  | array h => exact ⟨'[', _, rfl, rfl, by decide⟩
  | object h => exact ⟨'\x7b', _, rfl, rfl, by decide⟩
  | scalar h =>
      obtain ⟨c, tail, rfl⟩ := List.exists_cons_of_ne_nil h.ne_nil
      have hscalar := h.scalar c List.mem_cons_self
      refine ⟨c, tail, rfl, ?_, ?_⟩
      · by_contra hgap
        rw [isScalar_of_isGap (by simpa using hgap)] at hscalar
        cases hscalar
      · rintro rfl
        cases hscalar

/-- A value is read as it is spelled, if that is so for the values inside it. -/
theorem readsSpellings_of_below (hbelow : ∀ Inner, below = some Inner →
    ∃ d, depth = d + 1 ∧ ReadsSpellings (value d) Inner) :
    ReadsSpellings (value depth) (SpellsOver below) := by
  rintro _ json rest ⟨hlead, hused⟩ hrest
  rw [List.append_assoc]
  obtain ⟨c, tail, hcons, hc, hclose⟩ := hused.exists_cons
  have hskip := skipGap_append_cons hlead hc (tail ++ rest)
  rw [← List.cons_append, ← hcons] at hskip
  refine ⟨⟨c, tail ++ rest, by rw [hskip, hcons, List.cons_append], hclose⟩, ?_⟩
  cases hused with
  | scalar h => exact h.reads depth _ rest hskip hrest
  | string h =>
      refine reads_value_string depth (hskip.trans ?_) (h.2 rest)
      simp
  | array h =>
      obtain ⟨d, rfl, hreader⟩ := hbelow _ rfl
      exact reads_value_array d hskip (reads_items_of_spells hreader h rest)
  | object h =>
      obtain ⟨d, rfl, hreader⟩ := hbelow _ rfl
      exact reads_value_object d hskip (reads_members_of_spells hreader h rest)

/-- **A value is read as it is spelled**, however deep it is nested. -/
theorem readsSpellings_value (depth : Nat) : ReadsSpellings (value depth) (Spells depth) := by
  induction depth with
  | zero => exact readsSpellings_of_below nofun
  | succ depth ih =>
      refine readsSpellings_of_below fun Inner hinner => ?_
      cases hinner
      exact ⟨depth, rfl, ih⟩

end Values

/-! ## Texts with one value -/

/-- **A text holds one value** exactly when it is a spelling of the value with gaps around it. -/
theorem parse_eq_ok_iff {json : Json} :
    parse cs = .ok json ↔
      ∃ lead used trail, cs = lead ++ used ++ trail ∧ IsGaps lead ∧ IsGaps trail ∧
        Spells maxDepth used json := by
  constructor
  · intro h
    obtain ⟨read, hread, h⟩ := bind_eq_ok_iff.mp h
    split at h
    · rename_i hgap
      cases h
      obtain ⟨_, hcs, ⟨hlead, hused⟩⟩ := finds_value maxDepth cs read hread
      exact ⟨_, _, read.rest, hcs, hlead, List.dropWhile_eq_nil_iff.mp hgap, hused⟩
    · cases h
  · rintro ⟨lead, used, trail, rfl, hlead, htrail, hused⟩
    obtain ⟨read, hread, hvalue, hrest⟩ := (readsSpellings_value maxDepth (lead ++ used) json trail
      (.mk hlead hused) (stops_of_isGaps htrail)).2
    have hskip : skipGap read.rest = [] := by
      rw [hrest]
      exact List.dropWhile_eq_nil_iff.mpr htrail
    refine bind_eq_ok_iff.mpr ⟨read, hread, ?_⟩
    rw [hskip, hvalue]

end Courseware.Json
