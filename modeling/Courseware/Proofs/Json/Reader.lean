import Courseware.Json.Parser
import Courseware.Json.Printer

/-! # What the readers read

One lemma for each way in which a reader goes on: when the parts of a value are read (`Reads`), so is
the value. Gaps are skipped wherever the reader skips them. -/

namespace Courseware.Json

/-- **A reader reads a value** from the start of a text. -/
def Reads {α : Type} (reader : Reader α) (cs : List Char) (a : α) (rest : List Char) : Prop :=
  ∃ read, reader cs = .ok read ∧ read.value = a ∧ read.rest = rest

/-- There is nothing to skip before a character that is no gap. -/
theorem skipGap_cons {c : Char} {cs : List Char} (h : isGap c = false) :
    skipGap (c :: cs) = c :: cs := by
  rw [skipGap, List.dropWhile_cons_of_neg (by rw [h]; exact Bool.false_ne_true)]

/-! ## Texts and numbers -/

/-- A quoted text is read as its characters are. -/
theorem reads_quotedText_of_text {cs found rest : List Char} (h : text cs = .ok (found, rest)) :
    Reads quotedText cs (String.ofList found) rest := by
  rw [Reads, quotedText]
  split
  · next hfound =>
      cases h.symm.trans hfound
      exact ⟨_, rfl, rfl, rfl⟩
  · next failure hfailure => cases h.symm.trans hfailure

/-- A number is a value. -/
theorem reads_numeral_of_readSigned {n : Number} {cs rest : List Char}
    (h : Number.readSigned cs = .ok (n, rest)) : Reads numeral cs (.number n) rest := by
  rw [Reads, numeral]
  split
  · next found after hfound =>
      cases h.symm.trans hfound
      exact ⟨_, rfl, rfl, rfl⟩
  · next failure hfailure => cases h.symm.trans hfailure

/-! ## Values -/

section Value

variable {cs tail rest : List Char} (depth : Nat)

/-- A quote opens a text. -/
theorem reads_value_string {s : String} (hskip : skipGap cs = '"' :: tail)
    (h : Reads quotedText tail s rest) : Reads (value depth) cs (.string s) rest := by
  obtain ⟨_, hread, rfl, rfl⟩ := h
  rw [Reads, value]
  split
  · next hnil => cases hskip.symm.trans hnil
  · next hcons =>
      cases hskip.symm.trans hcons
      simp only [hread]
      exact ⟨_, rfl, rfl, rfl⟩

/-- A bracket opens an array. -/
theorem reads_value_array {found : List Json} (hskip : skipGap cs = '[' :: tail)
    (h : Reads (items (value depth)) tail found rest) :
    Reads (value (depth + 1)) cs (.array found) rest := by
  obtain ⟨_, hread, rfl, rfl⟩ := h
  rw [Reads, value]
  split
  · next hnil => cases hskip.symm.trans hnil
  · next hcons =>
      cases hskip.symm.trans hcons
      simp only [hread]
      exact ⟨_, rfl, rfl, rfl⟩

/-- A brace opens an object. -/
theorem reads_value_object {found : List (String × Json)} (hskip : skipGap cs = '\x7b' :: tail)
    (h : Reads (members (value depth)) tail found rest) :
    Reads (value (depth + 1)) cs (.object found) rest := by
  obtain ⟨_, hread, rfl, rfl⟩ := h
  rw [Reads, value]
  split
  · next hnil => cases hskip.symm.trans hnil
  · next hcons =>
      cases hskip.symm.trans hcons
      simp only [hread]
      exact ⟨_, rfl, rfl, rfl⟩

/-- The words stand for values without parts. -/
theorem reads_value_null (hskip : skipGap cs = "null".toList ++ rest) :
    Reads (value depth) cs .null rest := by
  rw [Reads, value]
  split
  · next hnil => cases hskip.symm.trans hnil
  · next hcons =>
      cases hskip.symm.trans hcons
      exact ⟨_, rfl, rfl, rfl⟩

/-- The words stand for values without parts. -/
theorem reads_value_bool {b : Bool} (hskip : skipGap cs = scalar (.bool b) ++ rest) :
    Reads (value depth) cs (.bool b) rest := by
  cases b <;> rw [Reads, value]
  all_goals
    split
    · next hnil => cases hskip.symm.trans hnil
    · next hcons =>
        cases hskip.symm.trans hcons
        exact ⟨_, rfl, rfl, rfl⟩

/-- A minus sign or a digit opens nothing but a number. -/
theorem not_mem_of_numeric {c : Char} (hc : c = '-' ∨ c.isDigit = true) :
    c ∉ ['"', '[', '\x7b', 'n', 't', 'f'] := by
  intro h
  simp only [List.mem_cons, List.not_mem_nil, or_false] at h
  rcases h with rfl | rfl | rfl | rfl | rfl | rfl <;> revert hc <;> decide

/-- A minus sign or a digit opens a number. -/
theorem reads_value_number {c : Char} {json : Json} (hc : c = '-' ∨ c.isDigit = true)
    (hskip : skipGap cs = c :: tail) (h : Reads numeral (c :: tail) json rest) :
    Reads (value depth) cs json rest := by
  obtain ⟨_, hread, rfl, rfl⟩ := h
  have hother := not_mem_of_numeric hc
  simp only [List.mem_cons, List.not_mem_nil, or_false, not_or] at hother
  obtain ⟨hquote, hbracket, hbrace, hn, ht, hf⟩ := hother
  rw [Reads, value]
  split
  · next hnil => cases hskip.symm.trans hnil
  · next hcons =>
      cases hskip.symm.trans hcons
      rw [if_neg hquote, if_neg hbracket, if_neg hbrace, if_neg hn, if_neg ht, if_neg hf, if_pos hc,
        hread]
      exact ⟨_, rfl, rfl, rfl⟩

end Value

/-! ## Arrays -/

/-- **A text that opens a value**: its first character that is no gap closes nothing. -/
def Opens (cs : List Char) : Prop := ∃ c tail, skipGap cs = c :: tail ∧ c ≠ ']'

/-- The text before a value is not at its end. -/
theorem Opens.skipGap_ne_nil {cs : List Char} (h : Opens cs) : skipGap cs ≠ [] := by
  obtain ⟨c, tail, hskip, -⟩ := h
  rw [hskip]
  exact List.cons_ne_nil c tail

/-- The text before a value does not close an array. -/
theorem Opens.skipGap_ne_close {cs : List Char} (h : Opens cs) (rest : List Char) :
    skipGap cs ≠ ']' :: rest := by
  obtain ⟨c, tail, hskip, hclose⟩ := h
  rw [hskip]
  exact fun heq => hclose (List.cons.inj heq).1

section Items

variable {item : Reader Json} {cs tail mid rest : List Char} {a : Json} {others : List Json}

/-- A bracket closes an array. -/
theorem reads_moreItems_nil (hskip : skipGap cs = ']' :: rest) :
    Reads (moreItems item) cs [] rest := by
  rw [Reads, moreItems]
  split
  · next hnil => cases hskip.symm.trans hnil
  · next hcons =>
      cases hskip.symm.trans hcons
      exact ⟨_, rfl, rfl, rfl⟩
  · next hcons => cases hskip.symm.trans hcons
  · next hclose _ hcons =>
      cases hskip.symm.trans hcons
      exact absurd rfl hclose

/-- A comma brings another item. -/
theorem reads_moreItems_cons (hskip : skipGap cs = ',' :: tail) (hopens : Opens tail)
    (hitem : Reads item tail a mid) (hmore : Reads (moreItems item) mid others rest) :
    Reads (moreItems item) cs (a :: others) rest := by
  obtain ⟨_, hfirst, rfl, rfl⟩ := hitem
  obtain ⟨_, hothers, rfl, rfl⟩ := hmore
  rw [Reads, moreItems]
  split
  · next hnil => cases hskip.symm.trans hnil
  · next hcons => cases hskip.symm.trans hcons
  · next hcons =>
      cases hskip.symm.trans hcons
      split
      · next hnil => exact absurd hnil hopens.skipGap_ne_nil
      · next hclose => exact absurd hclose (hopens.skipGap_ne_close _)
      · simp only [hfirst, hothers]
        exact ⟨_, rfl, rfl, rfl⟩
  · next hclose hcomma hcons =>
      cases hskip.symm.trans hcons
      exact absurd rfl hcomma

/-- An array has a first item. -/
theorem reads_items_cons (hopens : Opens cs) (hitem : Reads item cs a mid)
    (hmore : Reads (moreItems item) mid others rest) :
    Reads (items item) cs (a :: others) rest := by
  obtain ⟨_, hfirst, rfl, rfl⟩ := hitem
  obtain ⟨_, hothers, rfl, rfl⟩ := hmore
  rw [Reads, items]
  split
  · next hnil => exact absurd hnil hopens.skipGap_ne_nil
  · next hclose => exact absurd hclose (hopens.skipGap_ne_close _)
  · simp only [Bind.bind, Except.bind, hfirst, hothers]
    exact ⟨_, rfl, rfl, rfl⟩

/-- An array may have no item. -/
theorem reads_items_nil (hskip : skipGap cs = ']' :: rest) : Reads (items item) cs [] rest := by
  rw [Reads, items]
  split
  · next hnil => cases hskip.symm.trans hnil
  · next hcons =>
      cases hskip.symm.trans hcons
      exact ⟨_, rfl, rfl, rfl⟩
  · next hclose => exact absurd hskip (hclose rest)

end Items

/-! ## Objects -/

section Members

variable {reader : Reader Json} {cs tail mid rest : List Char} {found : String × Json}
  {others : List (String × Json)}

/-- A name, a colon and a value make a member. -/
theorem reads_member {name : String} {json : Json} (hname : Reads quotedText cs name tail)
    (hskip : skipGap tail = ':' :: mid) (hvalue : Reads reader mid json rest) :
    Reads (member reader) cs (name, json) rest := by
  obtain ⟨⟨_, _, _⟩, hname, rfl, rfl⟩ := hname
  obtain ⟨_, hvalue, rfl, rfl⟩ := hvalue
  rw [Reads, member, hname]
  simp only [Bind.bind, Except.bind]
  split
  · next hnil => cases hskip.symm.trans hnil
  · next hcons =>
      cases hskip.symm.trans hcons
      simp only [hvalue]
      exact ⟨_, rfl, rfl, rfl⟩
  · next hcolon hcons =>
      cases hskip.symm.trans hcons
      exact absurd rfl hcolon

/-- A brace closes an object. -/
theorem reads_moreMembers_nil (hskip : skipGap cs = '}' :: rest) :
    Reads (moreMembers reader) cs [] rest := by
  rw [Reads, moreMembers]
  split
  · next hnil => cases hskip.symm.trans hnil
  · next hcons =>
      cases hskip.symm.trans hcons
      exact ⟨_, rfl, rfl, rfl⟩
  · next hcons => cases hskip.symm.trans hcons
  · next hclose _ hcons =>
      cases hskip.symm.trans hcons
      exact absurd rfl hclose

/-- A comma brings another member. -/
theorem reads_moreMembers_cons {name : List Char} (hskip : skipGap cs = ',' :: tail)
    (hopens : skipGap tail = '"' :: name) (hmember : Reads (member reader) name found mid)
    (hmore : Reads (moreMembers reader) mid others rest) :
    Reads (moreMembers reader) cs (found :: others) rest := by
  obtain ⟨_, hfirst, rfl, rfl⟩ := hmember
  obtain ⟨_, hothers, rfl, rfl⟩ := hmore
  rw [Reads, moreMembers]
  split
  · next hnil => cases hskip.symm.trans hnil
  · next hcons => cases hskip.symm.trans hcons
  · next hcons =>
      cases hskip.symm.trans hcons
      split
      · next hnil => cases hopens.symm.trans hnil
      · next hcons => cases hopens.symm.trans hcons
      · next hcons =>
          cases hopens.symm.trans hcons
          simp only [hfirst, hothers]
          exact ⟨_, rfl, rfl, rfl⟩
      · next hclose hquote hcons =>
          cases hopens.symm.trans hcons
          exact absurd rfl hquote
  · next hclose hcomma hcons =>
      cases hskip.symm.trans hcons
      exact absurd rfl hcomma

/-- An object may have no member. -/
theorem reads_members_nil (hskip : skipGap cs = '}' :: rest) :
    Reads (members reader) cs [] rest := by
  rw [Reads, members]
  split
  · next hnil => cases hskip.symm.trans hnil
  · next hcons =>
      cases hskip.symm.trans hcons
      exact ⟨_, rfl, rfl, rfl⟩
  · next hcons => cases hskip.symm.trans hcons
  · next hclose _ hcons =>
      cases hskip.symm.trans hcons
      exact absurd rfl hclose

/-- An object has a first member. -/
theorem reads_members_cons (hskip : skipGap cs = '"' :: tail)
    (hmember : Reads (member reader) tail found mid)
    (hmore : Reads (moreMembers reader) mid others rest) :
    Reads (members reader) cs (found :: others) rest := by
  obtain ⟨_, hfirst, rfl, rfl⟩ := hmember
  obtain ⟨_, hothers, rfl, rfl⟩ := hmore
  rw [Reads, members]
  split
  · next hnil => cases hskip.symm.trans hnil
  · next hcons => cases hskip.symm.trans hcons
  · next hcons =>
      cases hskip.symm.trans hcons
      simp only [Bind.bind, Except.bind, hfirst, hothers]
      exact ⟨_, rfl, rfl, rfl⟩
  · next hclose hquote hcons =>
      cases hskip.symm.trans hcons
      exact absurd rfl hquote

end Members

end Courseware.Json
