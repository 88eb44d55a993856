import Courseware.Json.Number

/-! # Writing JSON

`Json.compact` writes a value without blanks, `Json.pretty` one member or item on a line. Quotes,
backslashes and control characters are escaped, everything else stands for itself. -/

namespace Courseware.Json

/-- Two, four or more hexadecimal digits: `n` in lower case, at least `width` of them. -/
def hexDigits (width n : Nat) : List Char :=
  let ds := Nat.toDigits 16 n
  List.replicate (width - ds.length) '0' ++ ds

/-- A character as it stands in a written text. -/
def escaped (c : Char) : List Char :=
  if c = '"' then ['\\', '"']
  else if c = '\\' then ['\\', '\\']
  else if c = '\x08' then ['\\', 'b']
  else if c = '\x0c' then ['\\', 'f']
  else if c = '\n' then ['\\', 'n']
  else if c = '\r' then ['\\', 'r']
  else if c = '\t' then ['\\', 't']
  else if c.toNat < 0x20 then '\\' :: 'u' :: hexDigits 4 c.toNat
  else [c]

/-- A written text. -/
def quoted (s : String) : List Char := '"' :: (s.toList.flatMap escaped ++ ['"'])

/-- The words for the values without parts. -/
def scalar : Json → List Char
  | null => "null".toList
  | bool true => "true".toList
  | bool false => "false".toList
  | number n => n.render
  | string s => quoted s
  | array _ | object _ => []

mutual

/-- A value without blanks, before the text `rest`. -/
def compactOnto (rest : List Char) : Json → List Char
  | array items => '[' :: compactItems (']' :: rest) items
  | object members => '\x7b' :: compactMembers ('\x7d' :: rest) members
  | null => scalar null ++ rest
  | bool b => scalar (bool b) ++ rest
  | number n => scalar (number n) ++ rest
  | string s => scalar (string s) ++ rest

/-- Items with commas between them, before the text `rest`. -/
def compactItems (rest : List Char) : List Json → List Char
  | [] => rest
  | [item] => compactOnto rest item
  | item :: items => compactOnto (',' :: compactItems rest items) item

/-- Members with commas between them, before the text `rest`. -/
def compactMembers (rest : List Char) : List (String × Json) → List Char
  | [] => rest
  | [(name, value)] => quoted name ++ ':' :: compactOnto rest value
  | (name, value) :: members =>
    quoted name ++ ':' :: compactOnto (',' :: compactMembers rest members) value

end

/-- The text of a value without blanks. -/
def compact (json : Json) : String := String.ofList (compactOnto [] json)

/-- A new line, indented to a depth by two blanks each. -/
def newline (depth : Nat) : List Char := '\n' :: List.replicate (2 * depth) ' '

mutual

/-- A value at a depth, one item or member on a line, before the text `rest`. -/
def prettyOnto (depth : Nat) (rest : List Char) : Json → List Char
  | array [] => '[' :: ']' :: rest
  | array items => '[' :: prettyItems (depth + 1) (newline depth ++ ']' :: rest) items
  | object [] => '\x7b' :: '\x7d' :: rest
  | object members => '\x7b' :: prettyMembers (depth + 1) (newline depth ++ '\x7d' :: rest) members
  | null => scalar null ++ rest
  | bool b => scalar (bool b) ++ rest
  | number n => scalar (number n) ++ rest
  | string s => scalar (string s) ++ rest

/-- Items on lines of their own at a depth. -/
def prettyItems (depth : Nat) (rest : List Char) : List Json → List Char
  | [] => rest
  | [item] => newline depth ++ prettyOnto depth rest item
  | item :: items =>
    newline depth ++ prettyOnto depth (',' :: prettyItems depth rest items) item

/-- Members on lines of their own at a depth. -/
def prettyMembers (depth : Nat) (rest : List Char) : List (String × Json) → List Char
  | [] => rest
  | [(name, value)] => newline depth ++ quoted name ++ ':' :: ' ' :: prettyOnto depth rest value
  | (name, value) :: members =>
    newline depth ++ quoted name
      ++ ':' :: ' ' :: prettyOnto depth (',' :: prettyMembers depth rest members) value

end

/-- The text of a value with one item or member on a line. -/
def pretty (json : Json) : String := String.ofList (prettyOnto 0 [] json)

end Courseware.Json
