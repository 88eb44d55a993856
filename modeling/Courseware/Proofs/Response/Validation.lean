import Courseware.Proofs.Response.Item
import Courseware.Response.Validation

/-! # Validated responses

A response that passes gives sound material of the kind of its task (`Material.Sound`). In a
collection the items of one array are **sorted out** one after the other (`SortedOut`): good items
are kept in order, bad ones are counted, and nothing else is lost. A collection without a good item
is refused, and so is a mind map with a bad branch. -/

namespace Courseware

open Text

/-- **Sound material**: the texts that must be there are tight, and questions are sound. -/
def Material.Sound : Material → Prop
  | .freeText body => Tight body
  | .mindMap central branches =>
    Tight central ∧ ∀ b ∈ branches, Tight b.topic ∧ ∀ s ∈ b.subtopics, Tight s
  | .flashcards items => ∀ card ∈ items, Tight card.question ∧ Tight card.answer
  | .questions items => ∀ q ∈ items, q.Sound

namespace Response

open Json

/-! ## The array of a collection -/

/-- **The array of a collection**: the response itself, or the first array that an object has under
one of the names of a collection. -/
inductive ArrayOf : Json → List Json → Prop
  /-- The response is an array. -/
  | bare (items : List Json) : ArrayOf (.array items) items
  /-- The array has a name, and no name before it is that of an array. -/
  | named (members : Members) (before : List String) (name : String) (after : List String)
      (items : List Json) (hnames : collectionNames = before ++ name :: after)
      (hbefore : ∀ other ∈ before, (find? other members).bind array? = none)
      (hitems : find? name members = some (.array items)) : ArrayOf (.object members) items

/-- Only an array has items. -/
theorem array?_eq_some_iff {json : Json} {items : List Json} :
    array? json = some items ↔ json = .array items := by
  cases json <;> simp [array?]

/-- **When a collection is found.** -/
theorem collection_eq_ok_iff {json : Json} {items : List Json} :
    collection json = .ok items ↔ ArrayOf json items := by
  constructor
  · intro h
    cases json with
    | array found =>
        cases h
        exact .bare items
    | object members =>
        rw [collection] at h
        split at h
        · next found hfound =>
            cases h
            obtain ⟨before, name, after, hnames, hname, hbefore⟩ :=
              List.findSome?_eq_some_iff.mp hfound
            obtain ⟨value, hvalue, harray⟩ := Option.bind_eq_some_iff.mp hname
            rw [array?_eq_some_iff.mp harray] at hvalue
            exact .named members before name after items hnames hbefore hvalue
        · cases h
    | _ => cases h
  · intro h
    cases h with
    | bare => rfl
    | named members before name after _ hnames hbefore hitems =>
        have hfound : (collectionNames.findSome? fun name =>
            (find? name members).bind array?) = some items := by
          refine List.findSome?_eq_some_iff.mpr ⟨before, name, after, hnames, ?_, hbefore⟩
          rw [hitems]
          rfl
        rw [collection, hfound]

/-- A value without an array is refused for that. -/
theorem collection_ne_noValidItems {json : Json} (dropped : Nat) :
    collection json ≠ .error (.noValidItems dropped) := by
  intro h
  cases json with
  | object members =>
      rw [collection] at h
      split at h <;> cases h
  | _ => cases h

/-- A text that is no JSON is refused for that. -/
theorem extract_ne_noValidItems {raw : List Char} (dropped : Nat) :
    extract raw ≠ .error (.noValidItems dropped) := by
  intro h
  rw [extract] at h
  split at h
  · cases h
  · split at h
    · cases h
    · split at h <;> cases h

/-! ## Sorting out -/

section SortedOut

variable {α : Type}

/-- **Items that are sorted out**: the good ones are read in order, and the bad ones are counted. -/
inductive SortedOut (normalize : Json → Except ItemDefect α) : List Json → List α → Nat → Prop
  /-- Nothing is left. -/
  | nil : SortedOut normalize [] [] 0
  /-- A good item is kept. -/
  | good {json : Json} {a : α} {rest : List Json} {items : List α} {dropped : Nat}
      (hread : normalize json = .ok a) (h : SortedOut normalize rest items dropped) :
      SortedOut normalize (json :: rest) (a :: items) dropped
  /-- A bad item is dropped. -/
  | bad {json : Json} {defect : ItemDefect} {rest : List Json} {items : List α} {dropped : Nat}
      (hread : normalize json = .error defect) (h : SortedOut normalize rest items dropped) :
      SortedOut normalize (json :: rest) items (dropped + 1)

variable {normalize : Json → Except ItemDefect α} {elements : List Json} {items : List α}
  {dropped : Nat}

/-- **Every item is kept or dropped.** -/
theorem SortedOut.length_add (h : SortedOut normalize elements items dropped) :
    items.length + dropped = elements.length := by
  induction h with
  | nil => rfl
  | good _ _ ih => rw [List.length_cons, List.length_cons, Nat.add_right_comm, ih]
  | bad _ _ ih => rw [List.length_cons, ← Nat.add_assoc, ih]

/-- Every item that is kept was read from an element. -/
theorem SortedOut.exists_of_mem (h : SortedOut normalize elements items dropped) {a : α}
    (ha : a ∈ items) : ∃ json ∈ elements, normalize json = .ok a := by
  induction h with
  | nil => cases ha
  | @good json b rest _ _ hread _ ih =>
      rcases List.mem_cons.mp ha with rfl | hrest
      · exact ⟨json, List.mem_cons_self, hread⟩
      · obtain ⟨found, hfound, hok⟩ := ih hrest
        exact ⟨found, List.mem_cons_of_mem json hfound, hok⟩
  | @bad json _ _ _ _ _ _ ih =>
      obtain ⟨found, hfound, hok⟩ := ih ha
      exact ⟨found, List.mem_cons_of_mem json hfound, hok⟩

/-- Sorting out keeps what can be read. -/
theorem SortedOut.eq_filterMap (h : SortedOut normalize elements items dropped) :
    items = elements.filterMap fun json => (normalize json).toOption := by
  induction h with
  | nil => rfl
  | good hread _ ih => rw [List.filterMap_cons_some (by rw [hread]; rfl), ← ih]
  | bad hread _ ih => rw [List.filterMap_cons_none (by rw [hread]; rfl), ← ih]

/-- Items can be sorted out. -/
theorem exists_sortedOut (normalize : Json → Except ItemDefect α) (elements : List Json) :
    ∃ items dropped, SortedOut normalize elements items dropped := by
  induction elements with
  | nil => exact ⟨[], 0, .nil⟩
  | cons json rest ih =>
      obtain ⟨items, dropped, h⟩ := ih
      cases hread : normalize json with
      | ok a => exact ⟨a :: items, dropped, .good hread h⟩
      | error defect => exact ⟨items, dropped + 1, .bad hread h⟩

/-- Nothing is kept exactly when every item is bad. -/
theorem SortedOut.eq_nil_iff (h : SortedOut normalize elements items dropped) :
    items = [] ↔ ∀ json ∈ elements, ∀ a, normalize json ≠ .ok a := by
  rw [h.eq_filterMap, List.filterMap_eq_nil_iff]
  refine forall₂_congr fun json _ => ?_
  cases normalize json <;> simp [Except.toOption]

/-- **Collecting** sorts the items out, and refuses them when none is good. -/
theorem collect_eq (h : SortedOut normalize elements items dropped) (requested : Option Nat) :
    collect normalize requested elements =
      if items = [] then .error (.noValidItems elements.length)
      else .ok (items, ⟨items.length, dropped, requested⟩) := by
  have hdropped : elements.length - items.length = dropped := by
    rw [← h.length_add, Nat.add_sub_cancel_left]
  rw [collect, ← h.eq_filterMap]
  by_cases hnil : items = []
  · rw [if_pos hnil, hnil]
    rfl
  · have hsome : items.isEmpty = false := List.isEmpty_eq_false_iff.mpr hnil
    simp only [hsome, Bool.false_eq_true, if_false, if_neg hnil, hdropped]

/-- **A collection that is read from a response**: its items are those of one array, in order, the
bad ones are dropped, and all are counted. -/
structure Collected (normalize : Json → Except ItemDefect α) (raw : String)
    (requested : Option Nat) (items : List α) (batch : Batch) : Prop where
  /-- The items are those of the array that can be read. -/
  sorted : ∃ json elements, extract raw.toList = .ok json ∧ ArrayOf json elements ∧
    SortedOut normalize elements items batch.dropped ∧
    batch.accepted + batch.dropped = elements.length
  /-- The good ones are counted. -/
  accepted : batch.accepted = items.length
  /-- There is a good one. -/
  pos : 1 ≤ batch.accepted
  /-- What was asked for is passed on. -/
  requested : batch.requested = requested

/-- **A response without a good item.** -/
def Hopeless (normalize : Json → Except ItemDefect α) (raw : String) (dropped : Nat) : Prop :=
  ∃ json elements, extract raw.toList = .ok json ∧ ArrayOf json elements ∧
    elements.length = dropped ∧ ∀ element ∈ elements, ∀ a, normalize element ≠ .ok a

section Collected

variable {material : List α → Material} {raw : String} {requested : Option Nat}

/-- The material of a response with an array. -/
theorem collected_eq {json : Json} (hjson : extract raw.toList = .ok json)
    (harray : ArrayOf json elements) (hsorted : SortedOut normalize elements items dropped) :
    collected normalize material raw requested =
      if items = [] then .error (.noValidItems elements.length)
      else .ok ⟨material items, some ⟨items.length, dropped, requested⟩⟩ := by
  rw [collected, hjson]
  simp only [Bind.bind, Except.bind, collection_eq_ok_iff.mpr harray, collect_eq hsorted]
  by_cases hnil : items = []
  · rw [if_pos hnil, if_pos hnil]
  · rw [if_neg hnil, if_neg hnil]
    rfl

/-- A response whose items pass or are refused for want of a good one has an array. -/
theorem exists_array_of_collected
    (h : (∃ validated, collected normalize material raw requested = .ok validated) ∨
      ∃ dropped, collected normalize material raw requested = .error (.noValidItems dropped)) :
    ∃ json elements, extract raw.toList = .ok json ∧ ArrayOf json elements := by
  -- Every other refusal comes before the items are counted, and has an error of its own.
  cases hjson : extract raw.toList with
  | error e =>
      have hcollected : collected normalize material raw requested = .error e := by
        rw [collected, hjson]
        rfl
      rw [hcollected] at h
      rcases h with ⟨_, hok⟩ | ⟨dropped, herror⟩
      · cases hok
      · cases herror
        exact absurd hjson (extract_ne_noValidItems dropped)
  | ok json =>
      cases harray : collection json with
      | error e =>
          have hcollected : collected normalize material raw requested = .error e := by
            rw [collected, hjson]
            simp only [Bind.bind, Except.bind, harray]
          rw [hcollected] at h
          rcases h with ⟨_, hok⟩ | ⟨dropped, herror⟩
          · cases hok
          · cases herror
            exact absurd harray (collection_ne_noValidItems dropped)
      | ok elements => exact ⟨json, elements, rfl, collection_eq_ok_iff.mp harray⟩

/-- **When a collection passes.** -/
theorem collected_eq_ok_iff {validated : Validated} :
    collected normalize material raw requested = .ok validated ↔
      ∃ items batch, Collected normalize raw requested items batch ∧
        validated = ⟨material items, some batch⟩ := by
  constructor
  · intro h
    obtain ⟨json, elements, hjson, harray⟩ := exists_array_of_collected (Or.inl ⟨validated, h⟩)
    obtain ⟨items, dropped, hsorted⟩ := exists_sortedOut normalize elements
    rw [collected_eq hjson harray hsorted] at h
    split at h
    · cases h
    · next hne =>
        cases h
        refine ⟨items, ⟨items.length, dropped, requested⟩, ?_, rfl⟩
        exact ⟨⟨json, elements, hjson, harray, hsorted, hsorted.length_add⟩, rfl,
          List.length_pos_iff.mpr hne, rfl⟩
  · rintro ⟨items, batch, hcollected, rfl⟩
    obtain ⟨json, elements, hjson, harray, hsorted, -⟩ := hcollected.sorted
    have hpos : 0 < items.length := hcollected.accepted ▸ hcollected.pos
    rw [collected_eq hjson harray hsorted, if_neg (List.length_pos_iff.mp hpos),
      ← hcollected.accepted, ← hcollected.requested]

/-- **When a collection is refused for want of a good item.** -/
theorem collected_eq_noValidItems_iff :
    collected normalize material raw requested = .error (.noValidItems dropped) ↔
      Hopeless normalize raw dropped := by
  constructor
  · intro h
    obtain ⟨json, elements, hjson, harray⟩ := exists_array_of_collected (Or.inr ⟨dropped, h⟩)
    obtain ⟨items, _, hsorted⟩ := exists_sortedOut normalize elements
    rw [collected_eq hjson harray hsorted] at h
    split at h
    · next hnil =>
        cases h
        exact ⟨json, elements, hjson, harray, rfl, hsorted.eq_nil_iff.mp hnil⟩
    · cases h
  · rintro ⟨json, elements, hjson, harray, rfl, hbad⟩
    obtain ⟨items, _, hsorted⟩ := exists_sortedOut normalize elements
    rw [collected_eq hjson harray hsorted, if_pos (hsorted.eq_nil_iff.mpr hbad)]

end Collected

end SortedOut

/-! ## The material of a task -/

variable {raw : String} {requested : Option Nat} {validated : Validated}

/-- **When a response in free text passes.** -/
theorem freeText_eq_ok_iff {material : Material} :
    freeText raw = .ok material ↔ Tight (trimmed raw) ∧ material = .freeText (trimmed raw) := by
  rw [freeText]
  by_cases hempty : trimmed raw = ""
  · rw [if_pos hempty]
    exact ⟨nofun, fun h => absurd hempty h.1.ne_empty⟩
  · rw [if_neg hempty, Except.ok.injEq, eq_comm]
    exact ⟨fun h => ⟨⟨hempty, trimmed_trimmed raw⟩, h⟩, fun h => h.2⟩

/-- **When the response to a mind map passes.** -/
theorem validate_mindmap_eq_ok_iff :
    validate .mindmap raw requested = .ok validated ↔
      ∃ members central items found, extract raw.toList = .ok (.object members) ∧
        central? members = some central ∧
        firstPresent branchesAliases members = some (.array items) ∧
        items.map branch = found.map some ∧ validated = ⟨.mindMap central found, none⟩ := by
  simp only [validate, bind_eq_ok_iff, mindMap_eq_ok_iff]
  constructor
  · rintro ⟨_, hjson, _, ⟨members, central, items, found, rfl, hcentral, hitems, hfound, rfl⟩, h⟩
    cases h
    exact ⟨members, central, items, found, hjson, hcentral, hitems, hfound, rfl⟩
  · rintro ⟨members, central, items, found, hjson, hcentral, hitems, hfound, rfl⟩
    exact ⟨_, hjson, _, ⟨members, central, items, found, rfl, hcentral, hitems, hfound, rfl⟩, rfl⟩

/-- **One bad branch** makes the response to a mind map fail. -/
theorem validate_mindmap_of_bad {members : Members} {items : List Json} {bad : Json}
    (hjson : extract raw.toList = .ok (.object members))
    (hitems : firstPresent branchesAliases members = some (.array items)) (hmem : bad ∈ items)
    (hbad : branch bad = none) :
    validate .mindmap raw requested = .error (.missingField "central") ∨
      validate .mindmap raw requested =
        .error (.wrongShape "branches" "topics or objects with a topic") := by
  rw [validate, hjson]
  simp only [Bind.bind, Except.bind, mindMap_object, hitems]
  cases central? members with
  | none => exact Or.inl rfl
  | some central =>
      simp only [branches_of_bad hmem hbad]
      exact Or.inr rfl

/-- **The material of a response that passes** is of the kind of its task, and sound. -/
theorem sound_of_validate {task : Task} (h : validate task raw requested = .ok validated) :
    Material.suits task validated.material = true ∧ validated.material.Sound := by
  cases task with
  | mindmap =>
      obtain ⟨members, central, items, found, -, hcentral, -, hfound, rfl⟩ :=
        validate_mindmap_eq_ok_iff.mp h
      obtain ⟨_, -, hcentral⟩ := Option.bind_eq_some_iff.mp hcentral
      refine ⟨rfl, tight_of_nonBlank hcentral, fun b hb => ?_⟩
      have hmem := List.mem_map_of_mem (f := some) hb
      rw [← hfound] at hmem
      obtain ⟨json, -, hread⟩ := List.mem_map.mp hmem
      exact tight_of_branch hread
  | flashcard =>
      obtain ⟨cards, batch, hcollected, rfl⟩ := collected_eq_ok_iff.mp h
      obtain ⟨_, _, -, -, hsorted, -⟩ := hcollected.sorted
      refine ⟨rfl, fun card hcard => ?_⟩
      obtain ⟨json, -, hread⟩ := hsorted.exists_of_mem hcard
      exact tight_of_flashcard hread
  | quiz =>
      obtain ⟨questions, batch, hcollected, rfl⟩ := collected_eq_ok_iff.mp h
      obtain ⟨_, _, -, -, hsorted, -⟩ := hcollected.sorted
      refine ⟨rfl, fun q hq => ?_⟩
      obtain ⟨json, -, hread⟩ := hsorted.exists_of_mem hq
      exact sound_of_question hread
  | _ =>
      obtain ⟨material, hmaterial, hvalidated⟩ := bind_eq_ok_iff.mp h
      cases hvalidated
      obtain ⟨htight, rfl⟩ := freeText_eq_ok_iff.mp hmaterial
      exact ⟨rfl, htight⟩

/-- **What validation makes of a response**: sound material of the kind of the task. A collection
keeps the good items of one array and counts all of them; a response without a good item is refused,
and so is a mind map with a bad branch. -/
theorem validate_structure (raw : String) (requested : Option Nat) :
    (∀ task validated, validate task raw requested = .ok validated →
      Material.suits task validated.material = true ∧ validated.material.Sound) ∧
    (∀ validated, validate .flashcard raw requested = .ok validated ↔
      ∃ cards batch, Collected flashcard raw requested cards batch ∧
        validated = ⟨.flashcards cards, some batch⟩) ∧
    (∀ validated, validate .quiz raw requested = .ok validated ↔
      ∃ questions batch, Collected question raw requested questions batch ∧
        validated = ⟨.questions questions, some batch⟩) ∧
    (∀ json q, question json = .ok q →
      ∃ members given, json = .object members ∧ firstPresent optionsAliases members = some given ∧
        q.options.toList = ((givenOptions given).take 4).map trimmed ++
          List.replicate (4 - (givenOptions given).length) "" ∧
        q.correct < min 4 (givenOptions given).length) ∧
    (∀ dropped,
      (validate .flashcard raw requested = .error (.noValidItems dropped) ↔
        Hopeless flashcard raw dropped) ∧
      (validate .quiz raw requested = .error (.noValidItems dropped) ↔
        Hopeless question raw dropped)) ∧
    (∀ validated, validate .mindmap raw requested = .ok validated ↔
      ∃ members central items found, extract raw.toList = .ok (.object members) ∧
        central? members = some central ∧
        firstPresent branchesAliases members = some (.array items) ∧
        items.map branch = found.map some ∧ validated = ⟨.mindMap central found, none⟩) ∧
    ∀ members items bad, extract raw.toList = .ok (.object members) →
      firstPresent branchesAliases members = some (.array items) → bad ∈ items →
      branch bad = none →
        validate .mindmap raw requested = .error (.missingField "central") ∨
          validate .mindmap raw requested =
            .error (.wrongShape "branches" "topics or objects with a topic") := by
  refine ⟨fun _ _ => sound_of_validate, fun _ => collected_eq_ok_iff, fun _ => collected_eq_ok_iff,
    fun _ _ => exists_given_of_question,
    fun _ => ⟨collected_eq_noValidItems_iff, collected_eq_noValidItems_iff⟩,
    fun _ => validate_mindmap_eq_ok_iff, fun _ _ _ => validate_mindmap_of_bad⟩

end Response

end Courseware
