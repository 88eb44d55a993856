import Courseware.Proofs.Json.Grammar
import Courseware.Proofs.Json.Scalar

/-! # Reading back what was written

A value without floats, with whole numbers in range and not nested too deep (`Plain`), is written as
a spelling of it (`written_of_plain`), so it is read back from its text (`parse_compact`). -/

namespace Courseware.Json

/-- **Values that are read back**: whole numbers are in range, and arrays and objects are nested at
most `depth` deep. -/
inductive Plain : Nat → Json → Prop
  | null (depth : Nat) : Plain depth .null
  | bool (depth : Nat) (b : Bool) : Plain depth (.bool b)
  | integer (depth : Nat) {n : Int} (h : Number.InRange n) : Plain depth (.number (.integer n))
  | string (depth : Nat) (s : String) : Plain depth (.string s)
  | array {depth : Nat} {items : List Json} (h : ∀ item ∈ items, Plain depth item) :
      Plain (depth + 1) (.array items)
  | object {depth : Nat} {members : List (String × Json)}
      (h : ∀ member ∈ members, Plain depth member.2) : Plain (depth + 1) (.object members)

/-! ## Numbers and texts -/

/-- A whole number is written as a spelling of it. -/
theorem spellsScalar_render {n : Int} (h : Number.InRange n) :
    SpellsScalar (Number.integer n).render (.number (.integer n)) := by
  have hread := Number.readSigned_render h
  obtain ⟨c, tail, hrender, hc⟩ := Number.exists_render_eq_cons n
  rw [hrender] at hread ⊢
  obtain ⟨used, hused, hspells⟩ := exists_spellsScalar_of_readSigned hc hread
  rw [List.append_nil] at hused
  rw [hused]
  exact hspells

/-- A text is written as a spelling of it. -/
theorem spellsText_escaped (s : String) : SpellsText (s.toList.flatMap escaped) s := by
  obtain ⟨read, hread, hvalue, hrest⟩ := reads_quotedText s []
  obtain ⟨body, hbody, hspells⟩ := exists_spellsText hread
  rw [hrest] at hbody
  rw [hvalue] at hspells
  rw [List.append_cancel_right hbody]
  exact hspells

/-! ## Arrays -/

/-- **A value is written as a spelling of it**, before every rest. -/
def Written (Inner : List Char → Json → Prop) (json : Json) : Prop :=
  ∃ used, Inner used json ∧ ∀ rest, compactOnto rest json = used ++ rest

/-- The text behind an item: nothing more, or a comma and the items that follow. -/
def itemsBehind (rest : List Char) : List Json → List Char
  | [] => rest
  | item :: items => ',' :: compactItems rest (item :: items)

/-- An item is written before what is behind it. -/
theorem compactItems_cons (rest : List Char) (item : Json) (items : List Json) :
    compactItems rest (item :: items) = compactOnto (itemsBehind rest items) item := by
  cases items <;> rfl

section Items

variable {Inner : List Char → Json → Prop} {items : List Json}

/-- The items behind an item are written as a spelling of them. -/
theorem exists_spellsBehind_items (h : ∀ item ∈ items, Written Inner item) :
    ∃ used, SpellsBehind ']' (SpellsItem Inner) used items ∧
      ∀ rest, itemsBehind (']' :: rest) items = used ++ rest := by
  induction items with
  | nil => exact ⟨[] ++ [']'], .close isGaps_nil, fun _ => rfl⟩
  | cons item items ih =>
      obtain ⟨⟨used, hused, hwrite⟩, hitems⟩ := List.forall_mem_cons.mp h
      obtain ⟨behind, hbehind, hfollow⟩ := ih hitems
      refine ⟨_, .comma isGaps_nil (.mk isGaps_nil hused) hbehind, fun rest => ?_⟩
      rw [itemsBehind, compactItems_cons, hwrite, hfollow]
      simp

/-- **The items of an array are written as a spelling of them.** -/
theorem exists_spellsParts_items (h : ∀ item ∈ items, Written Inner item) :
    ∃ used, SpellsParts ']' (SpellsItem Inner) used items ∧
      ∀ rest, compactItems (']' :: rest) items = used ++ rest := by
  cases items with
  | nil => exact ⟨[] ++ [']'], .none isGaps_nil, fun _ => rfl⟩
  | cons item items =>
      obtain ⟨⟨used, hused, hwrite⟩, hitems⟩ := List.forall_mem_cons.mp h
      obtain ⟨behind, hbehind, hfollow⟩ := exists_spellsBehind_items hitems
      refine ⟨_, .some (.mk isGaps_nil hused) hbehind, fun rest => ?_⟩
      rw [compactItems_cons, hwrite, hfollow]
      simp

end Items

/-! ## Objects -/

/-- The text behind a member: nothing more, or a comma and the members that follow. -/
def membersBehind (rest : List Char) : List (String × Json) → List Char
  | [] => rest
  | found :: others => ',' :: compactMembers rest (found :: others)

/-- A member is written before what is behind it. -/
theorem compactMembers_cons (rest : List Char) (name : String) (json : Json)
    (others : List (String × Json)) :
    compactMembers rest ((name, json) :: others) =
      '"' :: (name.toList.flatMap escaped ++
        '"' :: ':' :: compactOnto (membersBehind rest others) json) := by
  cases others <;> simp [compactMembers, membersBehind, quoted]

section Members

variable {Inner : List Char → Json → Prop} {members : List (String × Json)}

/-- A member is spelled with its name escaped and nothing around the colon. -/
theorem spellsMember_escaped {used : List Char} {json : Json} (name : String)
    (h : Inner used json) :
    SpellsMember Inner ('"' :: (name.toList.flatMap escaped ++ '"' :: ':' :: used)) (name, json) :=
  .mk isGaps_nil (spellsText_escaped name) isGaps_nil (.mk isGaps_nil h)

/-- The members behind a member are written as a spelling of them. -/
theorem exists_spellsBehind_members (h : ∀ member ∈ members, Written Inner member.2) :
    ∃ used, SpellsBehind '\x7d' (SpellsMember Inner) used members ∧
      ∀ rest, membersBehind ('\x7d' :: rest) members = used ++ rest := by
  induction members with
  | nil => exact ⟨[] ++ ['\x7d'], .close isGaps_nil, fun _ => rfl⟩
  | cons member members ih =>
      obtain ⟨⟨used, hused, hwrite⟩, hmembers⟩ := List.forall_mem_cons.mp h
      obtain ⟨behind, hbehind, hfollow⟩ := ih hmembers
      refine ⟨_, .comma isGaps_nil (spellsMember_escaped member.1 hused) hbehind, fun rest => ?_⟩
      rw [membersBehind, compactMembers_cons, hwrite, hfollow]
      simp

/-- **The members of an object are written as a spelling of them.** -/
theorem exists_spellsParts_members (h : ∀ member ∈ members, Written Inner member.2) :
    ∃ used, SpellsParts '\x7d' (SpellsMember Inner) used members ∧
      ∀ rest, compactMembers ('\x7d' :: rest) members = used ++ rest := by
  cases members with
  | nil => exact ⟨[] ++ ['\x7d'], .none isGaps_nil, fun _ => rfl⟩
  | cons member members =>
      obtain ⟨⟨used, hused, hwrite⟩, hmembers⟩ := List.forall_mem_cons.mp h
      obtain ⟨behind, hbehind, hfollow⟩ := exists_spellsBehind_members hmembers
      refine ⟨_, .some (spellsMember_escaped member.1 hused) hbehind, fun rest => ?_⟩
      rw [compactMembers_cons, hwrite, hfollow]
      simp

end Members

/-! ## The round trip -/

/-- **A plain value is written as a spelling of it.** -/
theorem written_of_plain {depth : Nat} {json : Json} (h : Plain depth json) :
    Written (Spells depth) json := by
  -- Items and members are nested one level less deep, as their spellings are.
  induction h with
  | null => exact ⟨_, .scalar spellsScalar_null, fun _ => rfl⟩
  | bool _ b => exact ⟨_, .scalar (spellsScalar_bool b), fun _ => rfl⟩
  | integer _ hn => exact ⟨_, .scalar (spellsScalar_render hn), fun _ => rfl⟩
  | string _ s => exact ⟨_, .string (spellsText_escaped s), fun _ => rfl⟩
  | array _ ih =>
      obtain ⟨used, hused, hwrite⟩ := exists_spellsParts_items ih
      exact ⟨'[' :: used, .array hused, fun rest => by rw [compactOnto, hwrite, List.cons_append]⟩
  | object _ ih =>
      obtain ⟨used, hused, hwrite⟩ := exists_spellsParts_members ih
      exact ⟨'\x7b' :: used, .object hused, fun rest => by rw [compactOnto, hwrite, List.cons_append]⟩

/-- The text of a plain value is a spelling of it. -/
theorem spells_compact {depth : Nat} {json : Json} (h : Plain depth json) :
    Spells depth json.compact.toList json := by
  obtain ⟨used, hused, hwrite⟩ := written_of_plain h
  rw [compact, String.toList_ofList, hwrite, List.append_nil]
  exact hused

/-- **The round trip of JSON**: reading the text of a plain value gives the value. -/
theorem parse_compact {json : Json} (h : Plain maxDepth json) :
    parse json.compact.toList = .ok json :=
  parse_eq_ok_iff.mpr ⟨[], _, [], by simp, isGaps_nil, isGaps_nil, spells_compact h⟩

end Courseware.Json
