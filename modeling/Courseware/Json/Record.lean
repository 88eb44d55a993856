import Courseware.Json.Number

/-! # Reading records from JSON

A record is written as an object with named members, or as an array of its fields in order.
`Json.fields?` lays out either form over the names of the fields; members with other names are
ignored, and a name that occurs twice is refused. How a field is read says what happens when it is
missing. -/

namespace Courseware.Json

/-- The members of an object that carry a name. -/
def named (name : String) (members : List (String × Json)) : List Json :=
  (members.filter fun member => member.1 == name).map (·.2)

/-- The field of an object with a name: nothing when it is missing. A name that occurs twice is
refused. -/
def field? (members : List (String × Json)) (name : String) : Option (Option Json) :=
  match named name members with
  | [] => some none
  | [value] => some (some value)
  | _ => none

/-- The fields of a record in the order of their names. An array gives the first fields, and has no
items beyond the last. -/
def fields? (names : List String) : Json → Option (List (Option Json))
  | object members => names.mapM (field? members)
  | array items =>
    if items.length ≤ names.length then
      some (items.map some ++ List.replicate (names.length - items.length) none)
    else none
  | _ => none

/-- A field that must be there. -/
def required {α : Type} (read : Json → Option α) (field : Option Json) : Option α := field.bind read

/-- A field with a value for when it is missing. -/
def withDefault {α : Type} (default : α) (read : Json → Option α) : Option Json → Option α
  | none => some default
  | some json => read json

/-- A field that may be missing or `null`. -/
def nullable {α : Type} (read : Json → Option α) : Option Json → Option (Option α)
  | none | some null => some none
  | some json => (read json).map some

/-- A whole number below a limit. -/
def below? (limit : Nat) (json : Json) : Option Nat := json.nat?.filter (· < limit)

/-- A whole number of 64 bits. -/
def size? : Json → Option Nat := below? (Nat.pow 2 64)

/-- A whole number of 32 bits. -/
def word? : Json → Option Nat := below? (Nat.pow 2 32)

/-- A number as a float of 64 bits. -/
def float? : Json → Option Float
  | number (.integer n) => some (Float.ofInt n)
  | number (.real x) => some x
  | _ => none

/-- A number as a float of 32 bits. -/
def float32? : Json → Option Float32
  | number (.integer n) => some (Float32.ofInt n)
  | number (.real x) => some x.toFloat32
  | _ => none

/-- An array whose items are all read. -/
def listOf? {α : Type} (read : Json → Option α) : Json → Option (List α)
  | array items => items.mapM read
  | _ => none

/-- The name of a choice without content: a text, or an object with one member that is `null`. -/
def choice? : Json → Option String
  | string name => some name
  | object [(name, null)] => some name
  | _ => none

/-- A member that is left out when it has no value. -/
def unlessNone {α : Type} (name : String) (write : α → Json) : Option α → List (String × Json)
  | none => []
  | some a => [(name, write a)]

end Courseware.Json
