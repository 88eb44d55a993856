import Courseware.Response.Extraction
import Courseware.Response.Alias

/-! # Mind maps in a response

A mind map has a central topic and branches; a branch is an object with a topic, or a topic alone.
One bad branch spoils the map, a bad subtopic is left out. -/

namespace Courseware.Response

open Json Text

/-- A trimmed text, unless it is blank. -/
def nonBlank (s : String) : Option String := some (trimmed s) |>.filter (· ≠ "")

/-- The subtopic a value stands for. -/
def subtopic : Json → Option String
  | .object item => textField topicAliases item
  | json => (scalarText json).bind nonBlank

/-- The branch a value stands for. -/
def branch : Json → Option Branch
  | .string topic => (nonBlank topic).map fun topic => ⟨topic, []⟩
  | .object item =>
    (textField topicAliases item).map fun topic =>
      let listed := ((firstPresent subtopicsAliases item).bind array?).getD []
      ⟨topic, listed.filterMap subtopic⟩
  | _ => none

/-- All branches, when none of them is bad. -/
def branches (items : List Json) : Except ValidationError (List Branch) :=
  match items.mapM branch with
  | some found => .ok found
  | none => .error (.wrongShape "branches" "topics or objects with a topic")

/-- The mind map a value stands for. -/
def mindMap : Json → Except ValidationError Material
  | .object item => do
    let central ← match ((firstPresent centralAliases item).bind string?).bind nonBlank with
      | some central => pure central
      | none => throw (.missingField "central")
    match firstPresent branchesAliases item with
    | none => throw (.missingField "branches")
    | some (.array items) => return .mindMap central (← branches items)
    | some _ => throw (.wrongShape "branches" "an array")
  | _ => .error (.wrongShape "mindmap" "a JSON object")

end Courseware.Response
