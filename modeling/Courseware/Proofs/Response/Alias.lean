import Courseware.Proofs.Json.Member
import Courseware.Response.Quiz

/-! # Fields under their own names

How a field is spelled does not matter. Of the aliases of a field the first one that has a value
other than `null` counts (`firstPresent_eq_some_iff`), so an item may be rewritten to its
**canonical form**, in which every field stands under one name and nothing else is left
(`CanonicalForm`). Cards and questions are read from the canonical form as from the item itself, and
members that do not count may be added or removed (`spellingFree_question_flashcard`). -/

namespace Courseware.Response

open Json

variable {aliases : List String} {members others : Members} {name : String} {json : Json}

/-! ## Which alias counts -/

/-- **A value that is given** under a name: there is one, and it is not `null`. -/
def Given (members : Members) (name : String) (json : Json) : Prop :=
  find? name members = some json ∧ json.isNull = false

/-- **The value that counts** among aliases: it is given under one of them, and nothing is given
under those before it. -/
def Counts (aliases : List String) (members : Members) (json : Json) : Prop :=
  ∃ before name after, aliases = before ++ name :: after ∧ Given members name json ∧
    ∀ other ∈ before, ∀ value, ¬ Given members other value

/-- Without aliases nothing is found. -/
@[simp] theorem firstPresent_nil : firstPresent [] members = none := rfl

/-- The first alias counts unless there is nothing or `null` under it. -/
theorem firstPresent_cons (name : String) (rest : List String) (members : Members) :
    firstPresent (name :: rest) members =
      ((find? name members).filter fun value => !value.isNull).or (firstPresent rest members) := by
  rw [firstPresent, List.filterMap_cons, firstPresent]
  cases find? name members with
  | none => rfl
  | some value =>
      rw [List.find?_cons, Option.filter_some]
      cases value.isNull <;> rfl

/-- The first alias goes before the others when something is given under it. -/
theorem firstPresent_cons_of_given (h : Given members name json) :
    firstPresent (name :: aliases) members = some json := by
  rw [firstPresent_cons, h.1, Option.filter_some, h.2]
  rfl

/-- The others count when nothing is given under the first alias. -/
theorem firstPresent_cons_of_not_given (h : ∀ value, ¬ Given members name value) :
    firstPresent (name :: aliases) members = firstPresent aliases members := by
  have hnone : ((find? name members).filter fun value => !value.isNull) = none := by
    rw [Option.filter_eq_none_iff]
    intro value hfound hvalue
    exact h value ⟨hfound, by simpa using hvalue⟩
  rw [firstPresent_cons, hnone, Option.none_or]

/-- The value under the first of some aliases goes before those under the rest. -/
theorem firstPresent_append (aliases rest : List String) (members : Members) :
    firstPresent (aliases ++ rest) members =
      (firstPresent aliases members).or (firstPresent rest members) := by
  rw [firstPresent, List.filterMap_append, List.find?_append, firstPresent, firstPresent]

/-- Nothing counts when nothing is given under any alias. -/
theorem firstPresent_eq_none_iff :
    firstPresent aliases members = none ↔
      ∀ name ∈ aliases, ∀ value, ¬ Given members name value := by
  induction aliases with
  | nil => simp
  | cons name rest ih =>
      rw [List.forall_mem_cons]
      by_cases hgiven : ∃ value, Given members name value
      · obtain ⟨value, hvalue⟩ := hgiven
        rw [firstPresent_cons_of_given hvalue]
        exact ⟨nofun, fun h => absurd hvalue (h.1 value)⟩
      · have hnone := not_exists.mp hgiven
        rw [firstPresent_cons_of_not_given hnone, ih]
        exact (and_iff_right hnone).symm

/-- **The first alias that is present** is the one that counts. -/
theorem firstPresent_eq_some_iff :
    firstPresent aliases members = some json ↔ Counts aliases members json := by
  constructor
  · intro h
    -- What counts among the rest counts behind a first alias under which nothing is given.
    induction aliases with
    | nil => cases h
    | cons name rest ih =>
        by_cases hgiven : ∃ value, Given members name value
        · obtain ⟨value, hvalue⟩ := hgiven
          rw [firstPresent_cons_of_given hvalue] at h
          cases h
          exact ⟨[], name, rest, rfl, hvalue, List.forall_mem_nil _⟩
        · have hnone := not_exists.mp hgiven
          rw [firstPresent_cons_of_not_given hnone] at h
          obtain ⟨before, found, after, rfl, hfound, hbefore⟩ := ih h
          exact ⟨name :: before, found, after, rfl, hfound,
            List.forall_mem_cons.mpr ⟨hnone, hbefore⟩⟩
  · rintro ⟨before, found, after, rfl, hfound, hbefore⟩
    rw [firstPresent_append, firstPresent_eq_none_iff.mpr hbefore, Option.none_or,
      firstPresent_cons_of_given hfound]

/-- What counts depends on what is given under the aliases alone. -/
theorem firstPresent_congr
    (h : ∀ name ∈ aliases, ∀ json, Given members name json ↔ Given others name json) :
    firstPresent aliases members = firstPresent aliases others := by
  induction aliases with
  | nil => rfl
  | cons name rest ih =>
      obtain ⟨hname, hrest⟩ := List.forall_mem_cons.mp h
      by_cases hgiven : ∃ value, Given members name value
      · obtain ⟨value, hvalue⟩ := hgiven
        rw [firstPresent_cons_of_given hvalue, firstPresent_cons_of_given ((hname value).mp hvalue)]
      · have hnone := not_exists.mp hgiven
        rw [firstPresent_cons_of_not_given hnone, ih hrest, firstPresent_cons_of_not_given]
        exact fun value hvalue => hnone value ((hname value).mpr hvalue)

/-! ## Canonical forms -/

/-- **A field** of an item. -/
structure ItemField where
  /-- The name of the field in a canonical form. -/
  name : String
  /-- The names under which it may be written, the first one first. -/
  aliases : List String
  deriving DecidableEq

/-- The fields of a question. -/
def quizFields : List ItemField :=
  [⟨"question", questionAliases⟩, ⟨"options", optionsAliases⟩, ⟨"correctIndex", correctAliases⟩,
   ⟨"explanation", explanationAliases⟩, ⟨"difficulty", difficultyAliases⟩]

/-- The fields of a card. -/
def cardFields : List ItemField :=
  [⟨"question", cardQuestionAliases⟩, ⟨"answer", cardAnswerAliases⟩,
   ⟨"difficulty", difficultyAliases⟩]

/-- **The canonical form of an item**, in any order: under the name of each field stands the value
that counts among its aliases, if there is one, and nothing else is there. -/
structure CanonicalForm (fields : List ItemField) (members canon : Members) : Prop where
  /-- Every name occurs once. -/
  nodup : (canon.map (·.1)).Nodup
  /-- A value stands under the name of a field when it counts. -/
  mem_iff : ∀ name json,
    (name, json) ∈ canon ↔ ∃ aliases, ⟨name, aliases⟩ ∈ fields ∧ Counts aliases members json

/-- **Fields that are kept apart**: the name of a field is an alias of that field alone. -/
structure Apart (fields : List ItemField) : Prop where
  /-- Every name occurs once. -/
  nodup : (fields.map (·.name)).Nodup
  /-- A name is an alias of its own field, and of no other. -/
  mem_aliases_iff : ∀ field ∈ fields, ∀ other ∈ fields, other.name ∈ field.aliases ↔ other = field

/-- The fields of a question are kept apart. -/
theorem apart_quizFields : Apart quizFields := ⟨by decide, by decide⟩

/-- The fields of a card are kept apart. -/
theorem apart_cardFields : Apart cardFields := ⟨by decide, by decide⟩

/-- The members of an item under the names of its fields. -/
def underNames (fields : List ItemField) (members : Members) : Members :=
  fields.filterMap fun field => (firstPresent field.aliases members).map (field.name, ·)

/-- The names under which these members stand are names of fields, in their order. -/
theorem map_fst_underNames_sublist (fields : List ItemField) (members : Members) :
    ((underNames fields members).map (·.1)).Sublist (fields.map (·.name)) := by
  induction fields with
  | nil => exact List.Sublist.refl _
  | cons field rest ih =>
      rw [underNames, List.filterMap_cons]
      cases firstPresent field.aliases members with
      | none => exact ih.cons _
      | some value => exact ih.cons_cons _

/-- **Every item has a canonical form.** -/
theorem canonicalForm_underNames {fields : List ItemField} (h : Apart fields) (members : Members) :
    CanonicalForm fields members (underNames fields members) where
  nodup := h.nodup.sublist (map_fst_underNames_sublist fields members)
  mem_iff := by
    intro name json
    rw [underNames, List.mem_filterMap]
    constructor
    · rintro ⟨field, hfield, hvalue⟩
      obtain ⟨value, hfirst, hmember⟩ := Option.map_eq_some_iff.mp hvalue
      cases hmember
      exact ⟨field.aliases, hfield, firstPresent_eq_some_iff.mp hfirst⟩
    · rintro ⟨aliases, hfield, hcounts⟩
      refine ⟨_, hfield, ?_⟩
      rw [firstPresent_eq_some_iff.mpr hcounts, Option.map_some]

section Canonical

variable {fields : List ItemField} {canon : Members} {field : ItemField}

/-- What is given in a canonical form is what counts among the aliases of a field. -/
theorem CanonicalForm.given_iff (h : CanonicalForm fields members canon) :
    Given canon name json ↔ ∃ aliases, ⟨name, aliases⟩ ∈ fields ∧ Counts aliases members json := by
  rw [Given, find?_eq_some_iff_mem h.nodup, h.mem_iff, and_iff_left_iff_imp]
  rintro ⟨_, -, _, _, _, -, ⟨-, hvalue⟩, -⟩
  exact hvalue

/-- **A field of a canonical form** has the value that it has in the item. -/
theorem CanonicalForm.firstPresent_eq (h : CanonicalForm fields members canon)
    (hapart : Apart fields) (hfield : field ∈ fields) :
    firstPresent field.aliases canon = firstPresent field.aliases members := by
  -- Of the aliases of a field only its own name occurs in the canonical form.
  have hown : ∀ {name json}, name ∈ field.aliases → Given canon name json →
      name = field.name ∧ Counts field.aliases members json := by
    intro name json hname hgiven
    obtain ⟨aliases, hmem, hcounts⟩ := h.given_iff.mp hgiven
    obtain rfl := (hapart.mem_aliases_iff field hfield _ hmem).mp hname
    exact ⟨rfl, hcounts⟩
  cases hfirst : firstPresent field.aliases members with
  | none =>
      rw [firstPresent_eq_none_iff]
      intro name hname value hgiven
      have hcounts := (hown hname hgiven).2
      rw [firstPresent_eq_some_iff.mpr hcounts] at hfirst
      cases hfirst
  | some json =>
      have hcounts := firstPresent_eq_some_iff.mp hfirst
      have hself := (hapart.mem_aliases_iff field hfield field hfield).mpr rfl
      obtain ⟨before, after, hsplit, hbefore⟩ := List.eq_append_cons_of_mem hself
      refine firstPresent_eq_some_iff.mpr ⟨before, field.name, after, hsplit, ?_, ?_⟩
      · exact h.given_iff.mpr ⟨field.aliases, hfield, hcounts⟩
      · intro other hother value hgiven
        have hname : other ∈ field.aliases := by
          rw [hsplit]
          exact List.mem_append_left _ hother
        rw [(hown hname hgiven).1] at hother
        exact hbefore hother

end Canonical

/-! ## Members that do not count -/

/-- **A member that does not count**: it is `null`, or something is given under an alias of higher
priority, for each field of which its name is an alias. There may be no such field. -/
def Idle (fields : List ItemField) (members : Members) (name : String) (json : Json) : Prop :=
  ∀ field ∈ fields, ∀ before after, field.aliases = before ++ name :: after →
    json.isNull = true ∨ ∃ other ∈ before, ∃ value, Given members other value

/-- **A member that does not count** changes no field. -/
theorem firstPresent_of_idle {fields : List ItemField} {field : ItemField} {before after : Members}
    (hnew : find? name (before ++ after) = none)
    (hidle : Idle fields (before ++ after) name json) (hfield : field ∈ fields) :
    firstPresent field.aliases (before ++ (name, json) :: after) =
      firstPresent field.aliases (before ++ after) := by
  have hothers : ∀ {other}, other ≠ name → ∀ value,
      Given (before ++ (name, json) :: after) other value ↔
        Given (before ++ after) other value := by
    intro other hother value
    rw [Given, Given, find?_append_cons hnew, if_neg hother]
  by_cases halias : name ∈ field.aliases
  · obtain ⟨first, rest, hsplit, hfirst⟩ := List.eq_append_cons_of_mem halias
    have hsame : firstPresent first (before ++ (name, json) :: after) =
        firstPresent first (before ++ after) :=
      firstPresent_congr fun other hmem => hothers fun hname => hfirst (hname ▸ hmem)
    -- The new member is `null`, or the aliases before its name decide as they did.
    rcases hidle field hfield first rest hsplit with hnull | ⟨other, hother, value, hgiven⟩
    · refine firstPresent_congr fun other _ value => ?_
      by_cases hname : other = name
      · -- Under the new name there was nothing before, and there is `null` now.
        subst hname
        rw [Given, Given, find?_append_cons hnew, if_pos rfl, hnew]
        refine ⟨?_, nofun⟩
        rintro ⟨hjson, hvalue⟩
        cases hjson
        rw [hnull] at hvalue
        cases hvalue
      · exact hothers hname value
    · cases hpresent : firstPresent first (before ++ after) with
      | none => exact absurd hgiven (firstPresent_eq_none_iff.mp hpresent other hother value)
      | some found =>
          rw [hsplit, firstPresent_append, firstPresent_append, hsame, hpresent, Option.some_or,
            Option.some_or]
  · exact firstPresent_congr fun other hmem => hothers fun hname => halias (hname ▸ hmem)

/-! ## Reading items -/

/-- **A card is read from the values of its fields.** -/
theorem flashcard_congr
    (h : ∀ field ∈ cardFields,
      firstPresent field.aliases members = firstPresent field.aliases others) :
    flashcard (.object members) = flashcard (.object others) := by
  simp only [cardFields, List.forall_mem_cons] at h
  obtain ⟨hquestion, hanswer, hdifficulty, -⟩ := h
  simp only [flashcard, itemMembers, Bind.bind, Except.bind, textField, difficulty, hquestion,
    hanswer, hdifficulty]

/-- **A question is read from the values of its fields.** -/
theorem question_congr
    (h : ∀ field ∈ quizFields,
      firstPresent field.aliases members = firstPresent field.aliases others) :
    question (.object members) = question (.object others) := by
  simp only [quizFields, List.forall_mem_cons] at h
  obtain ⟨hquestion, hoptions, hcorrect, hexplanation, hdifficulty, -⟩ := h
  simp only [question, itemMembers, Bind.bind, Except.bind, textField, difficulty, hquestion,
    hoptions, hcorrect, hexplanation, hdifficulty]

/-- Whether every field of an item matters: without the member of its name, the item is read
otherwise. -/
def Depends {α : Type} (fields : List ItemField) (read : Json → Except ItemDefect α)
    (members : Members) : Prop :=
  ∀ field ∈ fields,
    read (.object (members.filter (·.1 ≠ field.name))) ≠ read (.object members)

instance {α : Type} [DecidableEq α] (fields : List ItemField) (read : Json → Except ItemDefect α)
    (members : Members) : Decidable (Depends fields read members) :=
  inferInstanceAs (Decidable (∀ field ∈ fields, _))

/-- **A reading that does not depend on spelling**: it gives the same for every canonical form of an
item, which has one, and for the item with a member that does not count. It does depend on what is
spelled: on every field of some item. -/
structure SpellingFree {α : Type} (fields : List ItemField) (read : Json → Except ItemDefect α) :
    Prop where
  /-- Every item has a canonical form. -/
  exists_canonicalForm : ∀ members, ∃ canon, CanonicalForm fields members canon
  /-- A canonical form is read as the item. -/
  canonical : ∀ members canon, CanonicalForm fields members canon →
    read (.object canon) = read (.object members)
  /-- A new member that does not count changes nothing. -/
  idle : ∀ before after name json, find? name (before ++ after) = none →
    Idle fields (before ++ after) name json →
    read (.object (before ++ (name, json) :: after)) = read (.object (before ++ after))
  /-- Every field matters. -/
  depends : ∃ members, Depends fields read members

/-- A reading from the values of fields that are kept apart does not depend on spelling. -/
theorem spellingFree_of_congr {α : Type} {fields : List ItemField}
    {read : Json → Except ItemDefect α} (hapart : Apart fields)
    (hread : ∀ {members others : Members},
      (∀ field ∈ fields, firstPresent field.aliases members = firstPresent field.aliases others) →
        read (.object members) = read (.object others))
    (hdepends : Depends fields read members) : SpellingFree fields read where
  exists_canonicalForm members := ⟨_, canonicalForm_underNames hapart members⟩
  canonical _ _ h := hread fun _ hfield => h.firstPresent_eq hapart hfield
  idle _ _ _ _ hnew hidle := hread fun _ hfield => firstPresent_of_idle hnew hidle hfield
  depends := ⟨members, hdepends⟩

/-- Every field of a question matters when none has the value that stands for a missing one. -/
theorem depends_question :
    Depends quizFields question
      [("question", .string "Q"), ("options", .array [.string "A", .string "B"]),
       ("correctIndex", .number (.integer 1)), ("explanation", .string "E"),
       ("difficulty", .string "hard")] := by
  decide +kernel

/-- Every field of a card matters when the card is not of medium difficulty. -/
theorem depends_flashcard :
    Depends cardFields flashcard
      [("question", .string "Q"), ("answer", .string "A"), ("difficulty", .string "hard")] := by
  decide +kernel

/-- **Questions and cards do not depend on how their fields are spelled.** -/
theorem spellingFree_question_flashcard :
    SpellingFree quizFields question ∧ SpellingFree cardFields flashcard :=
  ⟨spellingFree_of_congr apart_quizFields question_congr depends_question,
    spellingFree_of_congr apart_cardFields flashcard_congr depends_flashcard⟩

/-- A first alias of the wrong kind counts, and the options under the second one do not. -/
example :
    underNames quizFields [("answers", .array [.string "a"]), ("choices", .string "b"),
      ("prompt", .string "Q"), ("question", .null), ("unit", .string "u")] =
      [("question", .string "Q"), ("options", .string "b")] := by
  rfl

end Courseware.Response
