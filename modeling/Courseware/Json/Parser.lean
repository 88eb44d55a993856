import Courseware.Json.Number
import Courseware.Json.Text

/-! # Reading JSON

`Json.parse` reads a text that holds one JSON value and nothing else but blanks. Arrays and objects
may be nested to a depth of 127. A reader gives the value and the rest of the text, which is
shorter, so that reading ends. -/

namespace Courseware.Json

open Failure

/-- What a reader has read from `cs`. -/
structure Read (α : Type) (cs : List Char) where
  /-- The value. -/
  value : α
  /-- What follows it. -/
  rest : List Char
  /-- Something was read. -/
  shorter : rest.length < cs.length

/-- Reads a value from the start of a text. -/
abbrev Reader (α : Type) := (cs : List Char) → Except Failure (Read α cs)

/-- A value read from the end of a text is read from the whole text. -/
def Read.within {α : Type} {cs ds : List Char} (read : Read α ds) (h : ds.length ≤ cs.length) :
    Read α cs :=
  ⟨read.value, read.rest, Nat.lt_of_lt_of_le read.shorter h⟩

/-- The characters that may stand between the parts of a value. -/
def isGap (c : Char) : Bool := c == ' ' || c == '\t' || c == '\n' || c == '\r'

/-- The text from its first character that is no gap. -/
def skipGap (cs : List Char) : List Char := cs.dropWhile isGap

theorem length_skipGap_le (cs : List Char) : (skipGap cs).length ≤ cs.length :=
  (List.dropWhile_sublist isGap).length_le

theorem length_lt_of_skipGap {c : Char} {cs rest : List Char} (h : skipGap cs = c :: rest) :
    rest.length < cs.length := by
  have := length_skipGap_le cs
  simp only [h, List.length_cons] at this
  omega

/-- Reads the given letters. -/
def letters : List Char → List Char → Except Failure (List Char)
  | [], cs => .ok cs
  | _ :: _, [] => .error (after .eofValue [])
  | l :: ls, c :: cs => if c = l then letters ls cs else .error ⟨.expectedIdentifier, c :: cs, 1⟩

theorem length_of_letters {ls cs rest : List Char} (h : letters ls cs = .ok rest) :
    cs.length = ls.length + rest.length := by
  fun_induction letters ls cs <;> grind

/-- Reads a value that is written as a word. -/
def word (json : Json) (first : Char) (others : List Char) : Reader Json := fun cs =>
  match h : letters (first :: others) cs with
  | .ok rest =>
    .ok ⟨json, rest, by have := length_of_letters h; simp only [List.length_cons] at this; omega⟩
  | .error failure => .error failure

/-- Reads a number with its sign. -/
def numeral : Reader Json := fun cs =>
  match h : Number.readSigned cs with
  | .ok (n, rest) => .ok ⟨.number n, rest, Number.length_lt_of_readSigned h⟩
  | .error failure => .error failure

/-- Reads a text from behind its opening quote. -/
def quotedText : Reader String := fun cs =>
  match h : text cs with
  | .ok (s, rest) => .ok ⟨String.ofList s, rest, length_lt_of_textFrom h⟩
  | .error failure => .error failure

/-- Reads the items after the first of an array, up to the closing bracket. -/
def moreItems (item : Reader Json) (cs : List Char) : Except Failure (Read (List Json) cs) :=
  match h : skipGap cs with
  | [] => .error (atNext .eofList [])
  | ']' :: rest => .ok ⟨[], rest, length_lt_of_skipGap h⟩
  | ',' :: rest =>
    match skipGap rest with
    | [] => .error (atNext .eofValue [])
    | ']' :: after => .error (atNext .trailingComma (']' :: after))
    | _ =>
      have hrest := length_lt_of_skipGap h
      match item rest with
      | .error failure => .error failure
      | .ok first =>
        have := first.shorter
        match moreItems item first.rest with
        | .error failure => .error failure
        | .ok others =>
          .ok ⟨first.value :: others.value, others.rest, by have := others.shorter; omega⟩
  | c :: rest => .error (atNext .expectedCommaOrBracket (c :: rest))
termination_by cs.length

/-- Reads the items of an array from behind its opening bracket. -/
def items (item : Reader Json) : Reader (List Json) := fun cs =>
  match h : skipGap cs with
  | [] => .error (atNext .eofList [])
  | ']' :: rest => .ok ⟨[], rest, length_lt_of_skipGap h⟩
  | _ => do
    let first ← item cs
    let others ← moreItems item first.rest
    .ok ⟨first.value :: others.value, others.rest, Nat.lt_trans others.shorter first.shorter⟩

/-- Reads a member of an object from behind the opening quote of its name. -/
def member (value : Reader Json) : Reader (String × Json) := fun cs => do
  let name ← quotedText cs
  match h : skipGap name.rest with
  | [] => .error (atNext .eofObject [])
  | ':' :: rest =>
    let read ← value rest
    .ok ⟨(name.value, read.value), read.rest,
      Nat.lt_trans read.shorter (Nat.lt_trans (length_lt_of_skipGap h) name.shorter)⟩
  | c :: rest => .error (atNext .expectedColon (c :: rest))

/-- Reads the members after the first of an object, up to the closing brace. -/
def moreMembers (value : Reader Json) (cs : List Char) :
    Except Failure (Read (List (String × Json)) cs) :=
  match h : skipGap cs with
  | [] => .error (atNext .eofObject [])
  | '\x7d' :: rest => .ok ⟨[], rest, length_lt_of_skipGap h⟩
  | ',' :: rest =>
    match h₂ : skipGap rest with
    | [] => .error (atNext .eofValue [])
    | '\x7d' :: after => .error (atNext .trailingComma ('\x7d' :: after))
    | '"' :: name =>
      have := length_lt_of_skipGap h
      have := length_lt_of_skipGap h₂
      match member value name with
      | .error failure => .error failure
      | .ok first =>
        have := first.shorter
        match moreMembers value first.rest with
        | .error failure => .error failure
        | .ok others =>
          .ok ⟨first.value :: others.value, others.rest, by have := others.shorter; omega⟩
    | c :: after => .error (atNext .keyNotString (c :: after))
  | c :: rest => .error (atNext .expectedCommaOrBrace (c :: rest))
termination_by cs.length

/-- Reads the members of an object from behind its opening brace. -/
def members (value : Reader Json) : Reader (List (String × Json)) := fun cs =>
  match h : skipGap cs with
  | [] => .error (atNext .eofObject [])
  | '\x7d' :: rest => .ok ⟨[], rest, length_lt_of_skipGap h⟩
  | '"' :: name => do
    let first ← member value name
    let others ← moreMembers value first.rest
    .ok ⟨first.value :: others.value, others.rest,
      Nat.lt_trans others.shorter (Nat.lt_trans first.shorter (length_lt_of_skipGap h))⟩
  | c :: rest => .error (atNext .keyNotString (c :: rest))

/-- Reads a value whose arrays and objects are nested at most `depth` deep. -/
def value (depth : Nat) : Reader Json := fun cs =>
  match h : skipGap cs with
  | [] => .error (atNext .eofValue [])
  | c :: rest =>
    have shorter := length_lt_of_skipGap h
    have whole : (c :: rest).length ≤ cs.length := h ▸ length_skipGap_le cs
    if c = '"' then
      (quotedText rest).map fun read =>
        ⟨.string read.value, read.rest, Nat.lt_trans read.shorter shorter⟩
    else if c = '[' then
      match depth with
      | 0 => .error (atNext .recursionLimit (c :: rest))
      | depth + 1 =>
        (items (value depth) rest).map fun read =>
          ⟨.array read.value, read.rest, Nat.lt_trans read.shorter shorter⟩
    else if c = '\x7b' then
      match depth with
      | 0 => .error (atNext .recursionLimit (c :: rest))
      | depth + 1 =>
        (members (value depth) rest).map fun read =>
          ⟨.object read.value, read.rest, Nat.lt_trans read.shorter shorter⟩
    else if c = 'n' then (word .null 'n' ['u', 'l', 'l'] (c :: rest)).map (·.within whole)
    else if c = 't' then (word (.bool true) 't' ['r', 'u', 'e'] (c :: rest)).map (·.within whole)
    else if c = 'f' then
      (word (.bool false) 'f' ['a', 'l', 's', 'e'] (c :: rest)).map (·.within whole)
    else if c = '-' ∨ c.isDigit then (numeral (c :: rest)).map (·.within whole)
    else .error (atNext .expectedValue (c :: rest))

/-- How deep arrays and objects may be nested. -/
def maxDepth : Nat := 127

/-- Reads a text that holds one value. -/
def parse (cs : List Char) : Except Failure Json := do
  let read ← value maxDepth cs
  match skipGap read.rest with
  | [] => .ok read.value
  | c :: rest => .error (atNext .trailingCharacters (c :: rest))

end Courseware.Json
