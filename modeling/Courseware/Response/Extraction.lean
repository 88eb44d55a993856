import Courseware.Text.Search
import Courseware.Text.Blank
import Courseware.Json.Parser

/-! # JSON in a response

A model often writes more than the JSON it was asked for. `Response.extract` takes the whole text
when it is JSON, and otherwise the first that reads of the **fenced blocks** and the two **spans**
from the first opening to the last closing bracket of a kind. -/

namespace Courseware

/-- Why a response is refused. -/
inductive ValidationError where
  /-- The response is blank. -/
  | empty
  /-- The response is no JSON; the message says why the whole text is none. -/
  | invalidJson (message : String)
  /-- A field is missing. -/
  | missingField (field : String)
  /-- A field holds something else than expected. -/
  | wrongShape (field expected : String)
  /-- No item of a collection is well formed. -/
  | noValidItems (dropped : Nat)
  deriving DecidableEq, Repr

/-- The text of a validation error. -/
def ValidationError.message : ValidationError → String
  | .empty => "response is empty"
  | .invalidJson message => "response is not valid JSON: " ++ message
  | .missingField field => "missing required field `" ++ field ++ "`"
  | .wrongShape field expected =>
    "field `" ++ field ++ "` has the wrong shape: expected " ++ expected
  | .noValidItems dropped =>
    "no well-formed items in batch (" ++ toString dropped ++ " dropped)"

namespace Response

open Text

/-- What opens and closes a fenced block. -/
def fence : List Char := ['\x60', '\x60', '\x60']

/-- The characters of the language name behind an opening fence. -/
def isLanguage (c : Char) : Bool := c.isAlphanum || c == '_' || c == '-'

/-- What follows the opening line of a fenced block: behind the language name, blanks, and at most
one line end. -/
def afterOpening (cs : List Char) : List Char :=
  match (cs.dropWhile isLanguage).dropWhile fun c => c == ' ' || c == '\t' with
  | '\r' :: '\n' :: rest => rest
  | '\r' :: rest => rest
  | '\n' :: rest => rest
  | rest => rest

theorem length_of_splitOnce? {pattern cs before after : List Char}
    (h : splitOnce? pattern cs = some (before, after)) :
    after.length + pattern.length ≤ cs.length := by
  induction cs generalizing before with
  | nil => simp_all [splitOnce?]
  | cons c cs ih =>
    unfold splitOnce? at h
    split at h
    · rename_i hp
      have := (List.isPrefixOf_iff_prefix.mp hp).length_le
      simp only [Option.some.injEq, Prod.mk.injEq] at h
      rw [← h.2, List.length_drop]
      omega
    · simp only [Option.map_eq_some_iff, Prod.mk.injEq] at h
      obtain ⟨⟨b, a⟩, hs, -, rfl⟩ := h
      have := ih hs
      dsimp only [List.length_cons] at this ⊢
      omega

theorem length_afterOpening_le (cs : List Char) : (afterOpening cs).length ≤ cs.length := by
  have h₁ := (List.dropWhile_sublist (l := cs) isLanguage).length_le
  have h₂ := (List.dropWhile_sublist (l := cs.dropWhile isLanguage)
    fun c => c == ' ' || c == '\t').length_le
  unfold afterOpening
  split <;> simp_all <;> omega

/-- The contents of the fenced blocks of a text, in order. A fence without a second one opens no
block. -/
def fencedBlocks (cs : List Char) : List (List Char) :=
  match h : splitOnce? fence cs with
  | none => []
  | some (_, opened) =>
    match h₂ : splitOnce? fence (afterOpening opened) with
    | none => []
    | some (body, rest) =>
      have := length_of_splitOnce? h
      have := length_of_splitOnce? h₂
      have := length_afterOpening_le opened
      body :: fencedBlocks rest
termination_by cs.length
decreasing_by simp only [fence, List.length_cons, List.length_nil] at *; omega

/-- The text from the first `opening` on, up to the last `closing` after it. -/
def span (opening closing : Char) (cs : List Char) : List Char :=
  upToLast (· == closing) (fromFirst (· == opening) cs)

/-- The outermost array and the outermost object, the one that begins first in front. -/
def spans (cs : List Char) : List (List Char) :=
  let arraySpan := span '[' ']' cs
  let objectSpan := span '\x7b' '\x7d' cs
  let arrayFirst :=
    (fromFirst (· == '\x7b') cs).length < (fromFirst (· == '[') cs).length
  (if arrayFirst then [arraySpan, objectSpan] else [objectSpan, arraySpan]).filter
    fun part => !part.isEmpty

/-- The parts of a text that may be the JSON asked for, in the order in which they are tried. -/
def candidates (cs : List Char) : List (List Char) :=
  ((fencedBlocks cs).map trim).filter (fun part => !part.isEmpty) ++ spans cs

/-- The value of a text that is JSON as a whole. -/
def read? (cs : List Char) : Option Json := (Json.parse cs).toOption

/-- The JSON value in a response, in canonical form. -/
def extract (raw : List Char) : Except ValidationError Json :=
  let text := trim raw
  if text.isEmpty then .error .empty
  else
    match Json.parse text with
    | .ok json => .ok json.canonical
    | .error failure =>
      match (candidates text).findSome? read? with
      | some json => .ok json.canonical
      | none => .error (.invalidJson (failure.message text))

end Response

end Courseware
