import Courseware.Json.Printer

/-! # Writing TOML

`Toml.render` writes an object as a document: values come before tables, an empty line precedes
every header, and a row of two or more items has one item on a line. -/

namespace Courseware.Toml

/-- Floats are written positionally, and a whole one ends in `.0`. -/
def layout : Decimal.Layout where
  positional := fun _ => true
  pointZero := true
  exponentPlus := false
  tie := .up

/-- A value without parts. -/
def renderScalar : Json → String
  | .bool true => "true"
  | .bool false => "false"
  | .number (.integer n) => toString n
  | .number (.real x) =>
    if x.isFinite then layout.float x else (Decimal.Layout.plain.float x).toLower
  | .string s => String.ofList (Json.quoted s)
  | .null | .array _ | .object _ => ""

/-- A value that is no table. -/
def renderValue : Json → String
  | .array [] => "[]"
  | .array [item] => "[" ++ renderScalar item ++ "]"
  | .array items =>
    "[\n" ++ String.join (items.map fun item => "    " ++ renderScalar item ++ ",\n") ++ "]"
  | json => renderScalar json

/-- The lines of the values of a table. -/
def renderValues (members : List (String × Json)) : String :=
  String.join <| (members.filter fun member => !member.2.isObject).map fun member =>
    member.1 ++ " = " ++ renderValue member.2 ++ "\n"

/-- The header of a table. -/
def renderHeader (path : List String) : String := "\n[" ++ ".".intercalate path ++ "]\n"

mutual

/-- The tables among the members of the table at a path. -/
def renderTables (path : List String) : List (String × Json) → String
  | [] => ""
  | (name, json) :: rest => renderTable (path ++ [name]) json ++ renderTables path rest

/-- A table at a path. A table that holds tables alone has no header. -/
def renderTable (path : List String) : Json → String
  | .object members =>
    let header :=
      if members.isEmpty || members.any fun member => !member.2.isObject then renderHeader path
      else ""
    header ++ renderValues members ++ renderTables path members
  | _ => ""

end

/-- An object as a document. -/
def render : Json → String
  | .object members => renderValues members ++ renderTables [] members
  | _ => ""

end Courseware.Toml
