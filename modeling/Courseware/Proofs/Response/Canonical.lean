import Courseware.Material.Wire
import Courseware.Proofs.Json.Extent
import Courseware.Proofs.Json.Member
import Courseware.Proofs.Json.RoundTrip
import Courseware.Proofs.Response.Fence
import Courseware.Proofs.Response.Validation

/-! # Canonical responses

Sound material that is written as JSON is a response that gives the same material again
(`validate_toJson_compact`): the text is read back, every field is found under its own name, and what was
trimmed once is not changed by trimming. -/

namespace Courseware

open Text

namespace Response

open Json

/-- **A plain value in a response** is taken as it is. -/
theorem extract_compact {json : Json} (h : Plain maxDepth json) :
    extract json.compact.toList = .ok json.canonical :=
  extract_of_parse (parse_trim (parse_compact h))

/-! ## Canonical fields -/

/-- Only `null` is `null` in canonical form. -/
theorem isNull_canonical (json : Json) : json.canonical.isNull = json.isNull := by
  cases json <;> rfl

/-- The first alias of a canonical object that is present is that of the object. -/
theorem firstPresent_canonical (aliases : List String) (members : Members) :
    firstPresent aliases (ordered (canonicalMembers members)) =
      (firstPresent aliases members.reverse).map canonical := by
  induction aliases with
  | nil => rfl
  | cons name rest ih =>
      rw [firstPresent, firstPresent, List.filterMap_cons, List.filterMap_cons, find?_canonical]
      cases hfound : find? name members.reverse with
      | none => exact ih
      | some json =>
          simp only [Option.map_some, List.find?_cons, isNull_canonical]
          cases json.isNull with
          | true => exact ih
          | false => rfl

section Fields

variable {aliases : List String} {members : Members}

/-- The text of a field whose text is trimmed, empty when it is. -/
theorem getD_textField {s : String} (hpresent : firstPresent aliases members = some (.string s))
    (h : trimmed s = s) : (textField aliases members).getD "" = s := by
  by_cases hempty : s = ""
  · rw [textField, hpresent, hempty]
    rfl
  · rw [textField_of_tight hpresent ⟨hempty, h⟩, Option.getD_some]

/-- The difficulty of an item that says it. -/
theorem difficulty_of_present {d : Difficulty}
    (hpresent : firstPresent difficultyAliases members = some d.toJson) :
    difficulty members = d := by
  rw [difficulty, hpresent]
  cases d <;> decide

end Fields

/-- **A card is read back.** -/
theorem flashcard_canonical {card : Flashcard} (hquestion : Tight card.question)
    (hanswer : Tight card.answer) : flashcard card.toJson.canonical = .ok card := by
  refine flashcard_eq_ok_iff.mpr ⟨_, rfl, textField_of_tight ?_ hquestion,
    textField_of_tight ?_ hanswer, (difficulty_of_present ?_).symm⟩
  all_goals
    rw [firstPresent_canonical]
    rfl

/-- The options of an array of texts. -/
theorem givenOptions_array_string (options : List String) :
    givenOptions (.array (options.map Json.string)) = options := by
  rw [givenOptions, List.map_map]
  exact List.map_id options

/-- A written array in canonical form. -/
theorem canonical_array_map {α : Type} (write : α → Json) (items : List α) :
    (Json.array (items.map write)).canonical = .array (items.map fun a => (write a).canonical) := by
  rw [canonical, canonicalItems_eq_map, List.map_map]
  rfl

/-- **A question is read back.** -/
theorem question_canonical {q : Question} (h : q.Sound) : question q.toJson.canonical = .ok q := by
  let written : Members :=
    [("question", .string q.question), ("options", .array (q.options.toList.map .string)),
      ("correct_index", .nat q.correct), ("explanation", .string q.explanation),
      ("difficulty", q.difficulty.toJson)]
  have hgiven : firstPresent optionsAliases (ordered (canonicalMembers written)) =
      some (.array (q.options.toList.map .string)) := by
    have hwritten : firstPresent optionsAliases written.reverse =
      some (.array (q.options.toList.map .string)) := rfl
    rw [firstPresent_canonical, hwritten, Option.map_some, canonical_array_map]
    rfl
  have hlength : q.options.toList.length = 4 := Vector.length_toList
  have htrimmed : (q.options.toList.take 4).map trimmed = q.options.toList := by
    rw [List.take_of_length_le (Nat.le_of_eq hlength), List.map_congr_left h.options, List.map_id']
  refine question_eq_ok_iff.mpr ⟨_, _, rfl, hgiven, ?_⟩
  rw [givenOptions_array_string]
  refine ⟨textField_of_tight ?_ h.question, ?_, ?_, ?_, (getD_textField ?_ h.explanation).symm,
    (difficulty_of_present ?_).symm⟩
  · rw [firstPresent_canonical]
    rfl
  · intro hnil
    rw [hnil] at hlength
    cases hlength
  · rw [htrimmed, hlength]
    exact (List.append_nil _).symm
  · -- The place of the correct option is found under its second name.
    have hcorrect : firstPresent correctAliases (ordered (canonicalMembers written)) =
        some (.nat q.correct) := by
      rw [firstPresent_canonical]
      rfl
    have hlt : q.correct < 4 := h.correct
    rw [correctOption, hcorrect, htrimmed]
    simp [correctIndex, nat, hlength, optionCount, hlt]
  · rw [firstPresent_canonical]
    rfl
  · rw [firstPresent_canonical]
    rfl

/-- Tight subtopics are read back. -/
theorem filterMap_subtopic {texts : List String} (h : ∀ s ∈ texts, Tight s) :
    (texts.map Json.string).filterMap subtopic = texts := by
  induction texts with
  | nil => rfl
  | cons s rest ih =>
      obtain ⟨hs, hrest⟩ := List.forall_mem_cons.mp h
      have hread : subtopic (.string s) = some s := nonBlank_of_tight hs
      rw [List.map_cons, List.filterMap_cons_some hread, ih hrest]

/-- **A branch is read back.** -/
theorem branch_canonical {b : Branch} (htopic : Tight b.topic)
    (hsubtopics : ∀ s ∈ b.subtopics, Tight s) : branch b.toJson.canonical = some b := by
  let written : Members :=
    [("topic", .string b.topic), ("subtopics", .array (b.subtopics.map .string))]
  have hlisted : firstPresent subtopicsAliases (ordered (canonicalMembers written)) =
      some (.array (b.subtopics.map .string)) := by
    have hwritten : firstPresent subtopicsAliases written.reverse =
      some (.array (b.subtopics.map .string)) := rfl
    rw [firstPresent_canonical, hwritten, Option.map_some, canonical_array_map]
    rfl
  refine branch_eq_some_iff.mpr (Or.inr ⟨_, rfl, textField_of_tight ?_ htopic, ?_⟩)
  · rw [firstPresent_canonical]
    rfl
  · rw [hlisted]
    exact (filterMap_subtopic hsubtopics).symm

/-! ## Canonical material -/

/-- A written array is plain when its items are. -/
theorem plain_array_map {α : Type} {depth : Nat} {write : α → Json} {items : List α}
    (h : ∀ a ∈ items, Plain depth (write a)) : Plain (depth + 1) (.array (items.map write)) := by
  refine .array fun json hjson => ?_
  obtain ⟨a, ha, rfl⟩ := List.mem_map.mp hjson
  exact h a ha

/-- Written cards are plain. -/
theorem plain_flashcard (depth : Nat) (card : Flashcard) : Plain (depth + 1) card.toJson := by
  refine .object ?_
  simp only [List.forall_mem_cons]
  exact ⟨.string _ _, .string _ _, .string _ _, List.forall_mem_nil _⟩

/-- Written branches are plain. -/
theorem plain_branch (depth : Nat) (b : Branch) : Plain (depth + 2) b.toJson := by
  refine .object ?_
  simp only [List.forall_mem_cons]
  exact ⟨.string _ _, plain_array_map fun _ _ => .string _ _, List.forall_mem_nil _⟩

/-- Written questions are plain. -/
theorem plain_question (depth : Nat) {q : Question} (h : q.Sound) : Plain (depth + 2) q.toJson := by
  have hcorrect : q.correct < 4 := h.correct
  refine .object ?_
  simp only [List.forall_mem_cons]
  refine ⟨.string _ _, plain_array_map fun _ _ => .string _ _, .integer _ ⟨?_, ?_⟩, .string _ _, .string _ _,
    List.forall_mem_nil _⟩
  · exact Int.le_trans (by decide) (Int.natCast_nonneg q.correct)
  · exact Int.ofNat_le.mpr (Nat.le_trans (Nat.le_of_lt hcorrect) (by decide))

/-- **Sound material is plain** when it is written. -/
theorem plain_toJson {material : Material} (h : material.Sound) :
    Plain maxDepth material.toJson := by
  refine .object ?_
  cases material with
  | freeText body =>
      simp only [Material.members, List.forall_mem_cons]
      exact ⟨.string _ _, .string _ _, List.forall_mem_nil _⟩
  | mindMap central branches =>
      simp only [Material.members, List.forall_mem_cons]
      exact ⟨.string _ _, .string _ _, plain_array_map fun b _ => plain_branch 123 b,
        List.forall_mem_nil _⟩
  | flashcards items =>
      simp only [Material.members, List.forall_mem_cons]
      exact ⟨.string _ _, plain_array_map fun card _ => plain_flashcard 124 card,
        List.forall_mem_nil _⟩
  | questions items =>
      simp only [Material.members, List.forall_mem_cons]
      exact ⟨.string _ _, plain_array_map fun q hq => plain_question 123 (h q hq),
        List.forall_mem_nil _⟩

/-- Items that are all read back are sorted out without loss. -/
theorem sortedOut_map {α : Type} {normalize : Json → Except ItemDefect α} {write : α → Json}
    {items : List α} (h : ∀ a ∈ items, normalize (write a) = .ok a) :
    SortedOut normalize (items.map write) items 0 := by
  induction items with
  | nil => exact .nil
  | cons a rest ih =>
      obtain ⟨ha, hrest⟩ := List.forall_mem_cons.mp h
      exact .good ha (ih hrest)

/-- **A written collection is read back.** -/
theorem collected_compact {α : Type} {normalize : Json → Except ItemDefect α} {write : α → Json}
    {material : List α → Material} {kind : String} {items : List α} (hne : items ≠ [])
    (hread : ∀ a ∈ items, normalize (write a).canonical = .ok a)
    (hplain : Plain maxDepth
      (.object [("kind", .string kind), ("items", .array (items.map write))]))
    (requested : Option Nat) :
    collected normalize material
        (compact (.object [("kind", .string kind), ("items", .array (items.map write))]))
        requested =
      .ok ⟨material items, some ⟨items.length, 0, requested⟩⟩ := by
  let written : Members := [("kind", .string kind), ("items", .array (items.map write))]
  have hbefore : ∀ other ∈ ["flashcards", "cards", "questions", "quiz"],
      (find? other (ordered (canonicalMembers written))).bind array? = none := by
    intro other hother
    rw [find?_canonical]
    simp only [List.mem_cons, List.not_mem_nil, or_false] at hother
    rcases hother with rfl | rfl | rfl | rfl <;> rfl
  have hitems : find? "items" (ordered (canonicalMembers written)) =
      some (.array (items.map fun a => (write a).canonical)) := by
    have hwritten : find? "items" written.reverse = some (.array (items.map write)) := rfl
    rw [find?_canonical, hwritten, Option.map_some, canonical_array_map]
  rw [collected_eq (extract_compact hplain)
    (.named _ ["flashcards", "cards", "questions", "quiz"] "items" [] _ rfl hbefore hitems)
    (sortedOut_map hread), if_neg hne]

/-- **A written mind map is read back.** -/
theorem validate_compact_mindMap {central : String} {branches : List Branch}
    (h : (Material.mindMap central branches).Sound) (requested : Option Nat) :
    validate .mindmap (Material.mindMap central branches).toJson.compact requested =
      .ok ⟨.mindMap central branches, none⟩ := by
  let written : Members := [("kind", .string "mind_map"), ("central", .string central),
    ("branches", .array (branches.map Branch.toJson))]
  have hjson := extract_compact (plain_toJson h)
  obtain ⟨hcentral, hbranches⟩ := h
  refine validate_mindmap_eq_ok_iff.mpr ⟨ordered (canonicalMembers written), central,
    branches.map fun b => b.toJson.canonical, branches, hjson, ?_, ?_, ?_, rfl⟩
  · have hfound : firstPresent centralAliases (ordered (canonicalMembers written)) =
        some (.string central) := by
      rw [firstPresent_canonical]
      rfl
    rw [central?, hfound]
    exact nonBlank_of_tight hcentral
  · have hwritten : firstPresent branchesAliases written.reverse =
        some (.array (branches.map Branch.toJson)) := rfl
    rw [firstPresent_canonical, hwritten, Option.map_some, canonical_array_map]
  · rw [List.map_map]
    exact List.map_congr_left fun b hb =>
      branch_canonical (hbranches b hb).1 (hbranches b hb).2

/-- **Validation has canonical responses for fixed points**: the material of a mind map, of cards or
of questions that passed, written as JSON, passes again and gives the same material. No item is
dropped. -/
theorem validate_toJson_compact {task : Task} (htask : task ∈ [.mindmap, .flashcard, .quiz])
    {raw : String} {requested : Option Nat} {validated : Validated}
    (h : validate task raw requested = .ok validated) (again : Option Nat) :
    validate task validated.material.toJson.compact again =
      .ok ⟨validated.material,
        if task = .mindmap then none else some ⟨validated.material.count, 0, again⟩⟩ := by
  obtain ⟨-, hsound⟩ := sound_of_validate h
  simp only [List.mem_cons, List.not_mem_nil, or_false] at htask
  rcases htask with rfl | rfl | rfl
  · obtain ⟨_, central, _, found, -, -, -, -, rfl⟩ := validate_mindmap_eq_ok_iff.mp h
    exact validate_compact_mindMap hsound again
  · obtain ⟨cards, batch, hcollected, rfl⟩ := collected_eq_ok_iff.mp h
    have hne : cards ≠ [] := List.length_pos_iff.mp (hcollected.accepted ▸ hcollected.pos)
    exact collected_compact hne
      (fun card hcard => flashcard_canonical (hsound card hcard).1 (hsound card hcard).2)
      (plain_toJson hsound) again
  · obtain ⟨questions, batch, hcollected, rfl⟩ := collected_eq_ok_iff.mp h
    have hne : questions ≠ [] := List.length_pos_iff.mp (hcollected.accepted ▸ hcollected.pos)
    exact collected_compact hne (fun q hq => question_canonical (hsound q hq))
      (plain_toJson hsound) again

/-- A card under other names and with blanks around its question, and the same card again. -/
theorem validate_toJson_compact_card :
    validate .flashcard "\x7b\"cards\":[\x7b\"front\":\" Cell \",\"back\":\"Unit\"\x7d]\x7d" none =
        .ok ⟨.flashcards [⟨"Cell", "Unit", .medium⟩], some ⟨1, 0, none⟩⟩ ∧
      validate .flashcard (Material.flashcards [⟨"Cell", "Unit", .medium⟩]).toJson.compact (some 5) =
        .ok ⟨.flashcards [⟨"Cell", "Unit", .medium⟩], some ⟨1, 0, some 5⟩⟩ := by
  let card : Members := [("front", .string " Cell "), ("back", .string "Unit")]
  let written : Members := [("cards", .array [.object card])]
  have hplain : Plain maxDepth (.object written) := by
    refine .object ?_
    simp only [written, card, List.forall_mem_singleton]
    refine .array ?_
    simp only [List.forall_mem_singleton]
    refine .object ?_
    simp only [List.forall_mem_cons]
    exact ⟨.string _ _, .string _ _, List.forall_mem_nil _⟩
  have hread : flashcard (.object (ordered (canonicalMembers card))) =
      .ok ⟨"Cell", "Unit", .medium⟩ := by
    refine flashcard_eq_ok_iff.mpr ⟨_, rfl, ?_, ?_, ?_⟩
    · rw [textField, firstPresent_canonical]
      rfl
    · rw [textField, firstPresent_canonical]
      rfl
    · rw [difficulty, firstPresent_canonical]
      rfl
  have hpasses : validate .flashcard (compact (.object written)) none =
      .ok ⟨.flashcards [⟨"Cell", "Unit", .medium⟩], some ⟨1, 0, none⟩⟩ := by
    have harray : ArrayOf (Json.object written).canonical
        [.object (ordered (canonicalMembers card))] := by
      refine .named _ ["flashcards"] "cards" ["questions", "quiz", "items"] _ rfl ?_ rfl
      exact fun other hother => List.mem_singleton.mp hother ▸ rfl
    exact collected_eq (extract_compact hplain) harray (.good hread .nil)
  have htext : compact (.object written) =
      "\x7b\"cards\":[\x7b\"front\":\" Cell \",\"back\":\"Unit\"\x7d]\x7d" := by
    decide
  rw [← htext]
  exact ⟨hpasses, validate_toJson_compact (by decide) hpasses (some 5)⟩

end Response

end Courseware
