import Courseware.Text.Whole
import Courseware.Response.Card

/-! # Quiz questions in a response

`Response.question` makes a question of an item. The options are the first four, filled up with
empty texts. The correct answer is given as a place, a digit, a letter or the text of an option
(`Response.correctIndex`), and must be one of the options that were given; without any the first
option is correct. -/

namespace Courseware.Response

open Text

/-- How many options a question has. -/
def optionCount : Nat := 4

/-- The trimmed text of an option. A value with parts is written as JSON. -/
def optionText (json : Json) : String := trimmed ((scalarText json).getD json.compact)

/-- The options of an item: the items of an array, or the values of an object. -/
def optionList : Json → List String
  | .array items => items.map optionText
  | .object members => members.map fun member => optionText member.2
  | _ => []

/-- The least place below `limit` that a float is equal to. -/
def floatIndex (limit : Nat) (x : Float) : Option Nat :=
  (List.range limit).find? fun i => x == Float.ofNat i

/-- A text without one closing parenthesis or full stop at its end. -/
def withoutMark (cs : List Char) : List Char :=
  match cs.getLast? with
  | some ')' | some '.' => cs.dropLast
  | _ => cs

/-- The place that an answer in words stands for: the text of an option, a number, a letter with or
without a mark behind it, or the text of an option in another case. A single letter is never taken
for the text of an option in another case. -/
def answerIndex (options : List String) (answer : List Char) : Option Nat :=
  if answer.isEmpty then none
  else
    (options.findIdx? fun o => o.toList == answer).orElse fun _ =>
      (wholeNumber answer).orElse fun _ =>
        match withoutMark answer with
        | [c] =>
          if c.isAlpha then
            let i := c.toUpper.toNat - 'A'.toNat
            if i < optionCount then some i else none
          else options.findIdx? fun o => sameIgnoringCase o.toList answer
        | _ => options.findIdx? fun o => sameIgnoringCase o.toList answer

/-- The place of the correct option among those that were given. -/
def correctIndex (options : List String) (json : Json) : Option Nat :=
  let index := match json with
    | .number (.integer n) => if 0 ≤ n then some n.toNat else none
    | .number (.real x) => floatIndex optionCount x
    | .string s => answerIndex options (trim s.toList)
    | _ => none
  index.filter fun i => i < options.length ∧ i < optionCount

/-- Four options: the first ones, filled up with empty texts. -/
def fourOptions (options : List String) : Vector String 4 :=
  #v[options[0]?.getD "", options[1]?.getD "", options[2]?.getD "", options[3]?.getD ""]

/-- The question of an item. -/
def question (json : Json) : Except ItemDefect Question := do
  let item ← itemMembers json
  let asked ← orDefect .missingQuestion (textField questionAliases item)
  let options := ((firstPresent optionsAliases item).map optionList).getD []
  if options.isEmpty then throw .missingOptions
  let correct ← match firstPresent correctAliases item with
    | some answer => orDefect .unresolvedAnswer (correctIndex (options.take optionCount) answer)
    | none => pure 0
  return ⟨asked, fourOptions options, correct, (textField explanationAliases item).getD "",
    difficulty item⟩

end Courseware.Response
