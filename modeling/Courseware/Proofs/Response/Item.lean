import Courseware.Proofs.Steps
import Courseware.Proofs.Text.Trim
import Courseware.Response.Quiz
import Courseware.Response.MindMap

/-! # What is read from an item

An item of a response is good when its fields are there: one equivalence says when a card
(`flashcard_eq_ok_iff`), a question (`question_eq_ok_iff`), a branch (`branch_eq_some_iff`) and a
mind map (`mindMap_eq_ok_iff`) is read, and what from. Texts that are read are **tight**: they are
not empty, and no blanks are around them. -/

namespace Courseware

open Text

/-- **A tight text** is not empty and has no blanks around it. -/
structure Text.Tight (s : String) : Prop where
  /-- There is a character. -/
  ne_empty : s ≠ ""
  /-- Trimming does not change the text. -/
  trimmed_eq : trimmed s = s

/-- **A sound question**: it asks something, there are no blanks around its texts, and the correct
option is one of the four. -/
structure Question.Sound (q : Question) : Prop where
  /-- The question is tight. -/
  question : Tight q.question
  /-- The options are trimmed. -/
  options : ∀ o ∈ q.options.toList, trimmed o = o
  /-- The correct option is one of the four. -/
  correct : q.correct < 4
  /-- The explanation is trimmed. -/
  explanation : trimmed q.explanation = q.explanation

namespace Response

open Json

/-- A field is there or its defect is given. -/
theorem orDefect_eq_ok_iff {α : Type} {defect : ItemDefect} {field : Option α} {a : α} :
    orDefect defect field = .ok a ↔ field = some a := by
  cases field with
  | none => exact ⟨nofun, nofun⟩
  | some b => simp [orDefect]

/-- Only an object has members. -/
theorem itemMembers_eq_ok_iff {json : Json} {members : Members} :
    itemMembers json = .ok members ↔ json = .object members := by
  cases json <;> simp [itemMembers]

/-! ## Texts -/

/-- A text that is trimmed and kept unless it is empty. -/
theorem filter_map_trimmed_eq_some_iff {field : Option String} {s : String} :
    (field.map trimmed).filter (· ≠ "") = some s ↔
      ∃ t, field = some t ∧ trimmed t = s ∧ s ≠ "" := by
  rw [Option.filter_eq_some_iff, Option.map_eq_some_iff]
  simp only [decide_eq_true_eq, ← exists_and_right, and_assoc]

/-- A text that is trimmed and kept unless it is empty is tight. -/
theorem tight_of_filter_map_trimmed {field : Option String} {s : String}
    (h : (field.map trimmed).filter (· ≠ "") = some s) : Tight s := by
  obtain ⟨t, -, rfl, hne⟩ := filter_map_trimmed_eq_some_iff.mp h
  exact ⟨hne, trimmed_trimmed t⟩

/-- A tight text is kept as it is. -/
theorem nonBlank_of_tight {s : String} (h : Tight s) : nonBlank s = some s :=
  filter_map_trimmed_eq_some_iff.mpr ⟨s, rfl, h.trimmed_eq, h.ne_empty⟩

/-- A text that is not blank is tight when it is trimmed. -/
theorem tight_of_nonBlank {s t : String} (h : nonBlank t = some s) : Tight s := by
  have hfilter : ((some t).map trimmed).filter (· ≠ "") = some s := h
  exact tight_of_filter_map_trimmed hfilter

/-- The text of a field is tight. -/
theorem tight_of_textField {aliases : List String} {members : Members} {s : String}
    (h : textField aliases members = some s) : Tight s :=
  tight_of_filter_map_trimmed h

/-- The text of a field that holds a tight text. -/
theorem textField_of_tight {aliases : List String} {members : Members} {s : String}
    (hpresent : firstPresent aliases members = some (.string s)) (h : Tight s) :
    textField aliases members = some s := by
  rw [textField, hpresent]
  exact nonBlank_of_tight h

/-! ## Cards -/

/-- **When a card is read**: the item is an object with a question and an answer. -/
theorem flashcard_eq_ok_iff {json : Json} {card : Flashcard} :
    flashcard json = .ok card ↔
      ∃ members, json = .object members ∧
        textField cardQuestionAliases members = some card.question ∧
        textField cardAnswerAliases members = some card.answer ∧
        card.difficulty = difficulty members := by
  simp only [flashcard, bind_eq_ok_iff, itemMembers_eq_ok_iff, orDefect_eq_ok_iff]
  constructor
  · rintro ⟨members, hjson, question, hquestion, answer, hanswer, hcard⟩
    cases hcard
    exact ⟨members, hjson, hquestion, hanswer, rfl⟩
  · rintro ⟨members, hjson, hquestion, hanswer, hdifficulty⟩
    refine ⟨members, hjson, card.question, hquestion, card.answer, hanswer, ?_⟩
    rw [← hdifficulty]
    rfl

/-- The question and the answer of a card are tight. -/
theorem tight_of_flashcard {json : Json} {card : Flashcard} (h : flashcard json = .ok card) :
    Tight card.question ∧ Tight card.answer := by
  obtain ⟨_, -, hquestion, hanswer, -⟩ := flashcard_eq_ok_iff.mp h
  exact ⟨tight_of_textField hquestion, tight_of_textField hanswer⟩

/-! ## Questions -/

/-- The text of an option as it was given. -/
def givenText (json : Json) : String := (scalarText json).getD json.compact

/-- **The options of an item as they were given**: the items of an array, or the values of an
object. -/
def givenOptions : Json → List String
  | .array items => items.map givenText
  | .object members => members.map fun member => givenText member.2
  | _ => []

/-- The options of an item are those that were given, trimmed. -/
theorem optionList_eq_map_trimmed (json : Json) :
    optionList json = (givenOptions json).map trimmed := by
  cases json <;> simp [optionList, givenOptions, optionText, givenText]

/-- **The four options of a question**: the first ones, filled up with empty texts. -/
theorem toList_fourOptions (options : List String) :
    (fourOptions options).toList = options.take 4 ++ List.replicate (4 - options.length) "" := by
  match options with
  | [] | [_] | [_, _] | [_, _, _] => rfl
  | a :: b :: c :: d :: rest =>
      have hfull : 4 - (a :: b :: c :: d :: rest).length = 0 :=
        Nat.sub_eq_zero_of_le (Nat.le_add_left 4 rest.length)
      rw [hfull]
      rfl

/-- When four options are those that were given, trimmed. -/
theorem fourOptions_map_trimmed_eq_iff {given : List String} {options : Vector String 4} :
    fourOptions (given.map trimmed) = options ↔
      options.toList = (given.take 4).map trimmed ++ List.replicate (4 - given.length) "" := by
  rw [← Vector.toList_inj, toList_fourOptions, List.length_map, List.map_take]
  exact eq_comm

/-- **The place of the correct option** among those that were given: the one that the answer stands
for, and the first one without an answer. -/
def correctOption (members : Members) (given : List String) : Option Nat :=
  match firstPresent correctAliases members with
  | some answer => correctIndex ((given.take 4).map trimmed) answer
  | none => some 0

/-- The correct option is one of those that the answer was looked up in, and of the first four. -/
theorem correctIndex_lt {options : List String} {json : Json} {index : Nat}
    (h : correctIndex options json = some index) : index < options.length ∧ index < 4 := by
  simp only [correctIndex, Option.filter_eq_some_iff, decide_eq_true_eq] at h
  exact h.2

/-- The correct option was given, and is one of the first four. -/
theorem correctOption_lt {members : Members} {given : List String} {index : Nat}
    (hgiven : given ≠ []) (h : correctOption members given = some index) :
    index < min 4 given.length := by
  rw [correctOption] at h
  split at h
  · simpa using (correctIndex_lt h).1
  · cases h
    exact Nat.lt_min.mpr ⟨by decide, List.length_pos_iff.mpr hgiven⟩

/-- **How a question is read** from the members of an item with given options. -/
structure Asked (members : Members) (given : List String) (q : Question) : Prop where
  /-- There is a question. -/
  question : textField questionAliases members = some q.question
  /-- There is an option. -/
  ne_nil : given ≠ []
  /-- The options are the first four, trimmed, and filled up with empty texts. -/
  options : q.options.toList = (given.take 4).map trimmed ++ List.replicate (4 - given.length) ""
  /-- There is a correct option. -/
  correct : correctOption members given = some q.correct
  /-- The explanation may be missing. -/
  explanation : q.explanation = (textField explanationAliases members).getD ""
  /-- The difficulty may be missing. -/
  difficulty : q.difficulty = Response.difficulty members

/-- The question of an item that asks something and gives an option. -/
theorem question_of_given {members : Members} {asked : String} {given : Json}
    (hasked : textField questionAliases members = some asked)
    (hgiven : firstPresent optionsAliases members = some given) (hne : givenOptions given ≠ []) :
    question (.object members) =
      (orDefect .unresolvedAnswer (correctOption members (givenOptions given))).map fun index =>
        ⟨asked, fourOptions ((givenOptions given).map trimmed), index,
          (textField explanationAliases members).getD "", difficulty members⟩ := by
  have hlisted : ((firstPresent optionsAliases members).map optionList).getD [] =
      (givenOptions given).map trimmed := by
    rw [hgiven, Option.map_some, Option.getD_some, optionList_eq_map_trimmed]
  have hmembers : itemMembers (.object members) = .ok members := rfl
  have hquestion : orDefect .missingQuestion (textField questionAliases members) = .ok asked := by
    rw [hasked, orDefect]
  have hsome : ((givenOptions given).map trimmed).isEmpty = false := by simpa using hne
  rw [question, hmembers]
  simp only [Bind.bind, Except.bind, hquestion, hlisted, hsome, Bool.false_eq_true, if_false]
  rw [correctOption, List.map_take, optionCount]
  cases firstPresent correctAliases members with
  | none => rfl
  | some answer =>
      cases hindex : correctIndex (((givenOptions given).map trimmed).take 4) answer <;>
        simp only [hindex] <;> rfl

/-- **When a question is read**: the item is an object with a question, with options and with an
answer that is one of them. -/
theorem question_eq_ok_iff {json : Json} {q : Question} :
    question json = .ok q ↔
      ∃ members given, json = .object members ∧
        firstPresent optionsAliases members = some given ∧
        Asked members (givenOptions given) q := by
  constructor
  · intro h
    have hsteps := h
    simp only [question, bind_eq_ok_iff, itemMembers_eq_ok_iff, orDefect_eq_ok_iff] at hsteps
    obtain ⟨members, rfl, asked, hasked, hrest⟩ := hsteps
    cases hgiven : firstPresent optionsAliases members with
    | none =>
        rw [hgiven] at hrest
        cases hrest
    | some given =>
        -- Without an option the item is refused before its answer is looked at.
        by_cases hnil : givenOptions given = []
        · rw [hgiven, Option.map_some, Option.getD_some, optionList_eq_map_trimmed, hnil] at hrest
          cases hrest
        · rw [question_of_given hasked hgiven hnil] at h
          refine ⟨members, given, rfl, hgiven, ?_⟩
          cases hcorrect : correctOption members (givenOptions given) with
          | none =>
              rw [hcorrect] at h
              cases h
          | some index =>
              rw [hcorrect] at h
              cases h
              exact ⟨hasked, hnil, fourOptions_map_trimmed_eq_iff.mp rfl, hcorrect, rfl, rfl⟩
  · rintro ⟨members, given, rfl, hgiven, hasked⟩
    rw [question_of_given hasked.question hgiven hasked.ne_nil, hasked.correct,
      fourOptions_map_trimmed_eq_iff.mpr hasked.options, ← hasked.explanation,
      ← hasked.difficulty]
    rfl

/-- **What is kept of the options of an item**: the first four, trimmed, and filled up with empty
texts; the correct one was given. -/
theorem exists_given_of_question {json : Json} {q : Question} (h : question json = .ok q) :
    ∃ members given, json = .object members ∧ firstPresent optionsAliases members = some given ∧
      q.options.toList = ((givenOptions given).take 4).map trimmed ++
        List.replicate (4 - (givenOptions given).length) "" ∧
      q.correct < min 4 (givenOptions given).length := by
  obtain ⟨members, given, hjson, hgiven, hasked⟩ := question_eq_ok_iff.mp h
  exact ⟨members, given, hjson, hgiven, hasked.options,
    correctOption_lt hasked.ne_nil hasked.correct⟩

/-- A question that is read is sound. -/
theorem sound_of_question {json : Json} {q : Question} (h : question json = .ok q) : q.Sound := by
  obtain ⟨_, given, -, -, hasked⟩ := question_eq_ok_iff.mp h
  obtain ⟨_, _, -, -, -, hcorrect⟩ := exists_given_of_question h
  refine ⟨tight_of_textField hasked.question, fun o ho => ?_,
    hcorrect.trans_le (Nat.min_le_left _ _), ?_⟩
  · rw [hasked.options] at ho
    rcases List.mem_append.mp ho with hgiven | hfilled
    · obtain ⟨t, -, rfl⟩ := List.mem_map.mp hgiven
      exact trimmed_trimmed t
    · rw [List.eq_of_mem_replicate hfilled]
      rfl
  · rw [hasked.explanation]
    cases hexplanation : textField explanationAliases _ with
    | none => rfl
    | some explanation => exact (tight_of_textField hexplanation).trimmed_eq

/-! ## Branches -/

/-- **When a branch is read**: from a text that is not blank, or from an object with a topic. Bad
subtopics are left out. -/
theorem branch_eq_some_iff {json : Json} {b : Branch} :
    branch json = some b ↔
      (∃ s, json = .string s ∧ nonBlank s = some b.topic ∧ b.subtopics = []) ∨
      ∃ members, json = .object members ∧ textField topicAliases members = some b.topic ∧
        b.subtopics =
          (((firstPresent subtopicsAliases members).bind array?).getD []).filterMap subtopic := by
  cases json with
  | string s =>
      simp only [branch, Option.map_eq_some_iff, Json.string.injEq, exists_eq_left', reduceCtorEq,
        false_and, exists_const, or_false]
      constructor
      · rintro ⟨topic, htopic, rfl⟩
        exact ⟨htopic, rfl⟩
      · rintro ⟨htopic, hsubtopics⟩
        exact ⟨b.topic, htopic, by rw [← hsubtopics]⟩
  | object members =>
      simp only [branch, Option.map_eq_some_iff, Json.object.injEq, exists_eq_left', reduceCtorEq,
        false_and, exists_const, false_or]
      constructor
      · rintro ⟨topic, htopic, rfl⟩
        exact ⟨htopic, rfl⟩
      · rintro ⟨htopic, hsubtopics⟩
        exact ⟨b.topic, htopic, by rw [← hsubtopics]⟩
  | _ => simp [branch]

/-- A subtopic is tight. -/
theorem tight_of_subtopic {json : Json} {s : String} (h : subtopic json = some s) : Tight s := by
  cases json with
  | object members => exact tight_of_textField h
  | _ =>
      simp only [subtopic, Option.bind_eq_some_iff] at h
      obtain ⟨t, -, ht⟩ := h
      exact tight_of_nonBlank ht

/-- The topic and the subtopics of a branch are tight. -/
theorem tight_of_branch {json : Json} {b : Branch} (h : branch json = some b) :
    Tight b.topic ∧ ∀ s ∈ b.subtopics, Tight s := by
  rcases branch_eq_some_iff.mp h with ⟨t, -, htopic, hsubtopics⟩ | ⟨_, -, htopic, hsubtopics⟩
  · refine ⟨tight_of_nonBlank htopic, ?_⟩
    rw [hsubtopics]
    exact List.forall_mem_nil _
  · refine ⟨tight_of_textField htopic, ?_⟩
    rw [hsubtopics]
    intro s hs
    obtain ⟨json, -, hsubtopic⟩ := List.mem_filterMap.mp hs
    exact tight_of_subtopic hsubtopic

/-- Branches are read one after the other. -/
theorem mapM_branch_eq_some_iff {items : List Json} {found : List Branch} :
    items.mapM branch = some found ↔ items.map branch = found.map some := by
  induction items generalizing found with
  | nil => cases found <;> simp
  | cons json rest ih =>
      simp only [List.mapM_cons, Option.bind_eq_bind, Option.bind_eq_some_iff, ih, List.map_cons]
      constructor
      · rintro ⟨b, hb, others, hothers, hfound⟩
        cases hfound
        rw [hb, hothers, List.map_cons]
      · intro h
        obtain ⟨b, others, rfl, hb, hothers⟩ := List.map_eq_cons_iff.mp h.symm
        exact ⟨b, hb.symm, others, hothers.symm, rfl⟩

/-- **All branches are read** when each of them is good. -/
theorem branches_eq_ok_iff {items : List Json} {found : List Branch} :
    branches items = .ok found ↔ items.map branch = found.map some := by
  rw [← mapM_branch_eq_some_iff, branches]
  cases items.mapM branch with
  | none => exact ⟨nofun, nofun⟩
  | some others => simp

/-- **One bad branch** spoils them all. -/
theorem branches_of_bad {items : List Json} {bad : Json} (hmem : bad ∈ items)
    (hbad : branch bad = none) :
    branches items = .error (.wrongShape "branches" "topics or objects with a topic") := by
  have hnone : items.mapM branch = none := by
    rw [Option.eq_none_iff_forall_ne_some]
    intro found hfound
    have hread := List.mem_map_of_mem (f := branch) hmem
    rw [mapM_branch_eq_some_iff.mp hfound, hbad] at hread
    obtain ⟨b, -, hb⟩ := List.mem_map.mp hread
    cases hb
  rw [branches, hnone]

/-- The central topic of a mind map, unless it is blank or no text. -/
def central? (members : Members) : Option String :=
  ((firstPresent centralAliases members).bind string?).bind nonBlank

/-- The mind map of an object. -/
theorem mindMap_object (members : Members) :
    mindMap (.object members) =
      match central? members, firstPresent branchesAliases members with
      | none, _ => .error (.missingField "central")
      | some _, none => .error (.missingField "branches")
      | some central, some (.array items) => (branches items).map (Material.mindMap central)
      | some _, some _ => .error (.wrongShape "branches" "an array") := by
  rw [mindMap, ← central?]
  cases central? members with
  | none => rfl
  | some central =>
      cases firstPresent branchesAliases members with
      | none => rfl
      | some value =>
          cases value with
          | array items =>
              show (branches items >>= fun found => pure (Material.mindMap central found)) =
                (branches items).map (Material.mindMap central)
              cases branches items <;> rfl
          | _ => rfl

/-- **When a mind map is read**: from an object with a central topic and an array of branches that
are all good. -/
theorem mindMap_eq_ok_iff {json : Json} {material : Material} :
    mindMap json = .ok material ↔
      ∃ members central items found, json = .object members ∧ central? members = some central ∧
        firstPresent branchesAliases members = some (.array items) ∧
        items.map branch = found.map some ∧ material = .mindMap central found := by
  constructor
  · intro h
    cases json with
    | object members =>
        rw [mindMap_object] at h
        split at h
        · cases h
        · cases h
        · next central items hcentral hitems =>
            cases hbranches : branches items with
            | error e =>
                rw [hbranches] at h
                cases h
            | ok found =>
                rw [hbranches] at h
                cases h
                exact ⟨members, central, items, found, rfl, hcentral, hitems,
                  branches_eq_ok_iff.mp hbranches, rfl⟩
        · cases h
    | _ => cases h
  · rintro ⟨members, central, items, found, rfl, hcentral, hitems, hfound, rfl⟩
    rw [mindMap_object, hcentral, hitems]
    simp only [branches_eq_ok_iff.mpr hfound]
    rfl

end Response

end Courseware
