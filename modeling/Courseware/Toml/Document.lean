import Courseware.Toml.Scalar

/-! # TOML documents

`Toml.parse` reads a document: lines with a key and a value, under headers that name a table. Values
are texts, numbers, truth values and rows of them; a row may span lines. No key may be given twice.
The result is an object, so that a document is read like JSON from there on. -/

namespace Courseware.Toml

/-- How a table came to be. -/
inductive Origin where
  /-- It lies on the way to the table of a header. -/
  | path
  /-- A header names it. -/
  | header
  /-- A key with dots names it. -/
  | key
  deriving DecidableEq, Repr

/-- A value or a table. -/
inductive Node where
  /-- A value. -/
  | value (json : Json)
  /-- A table with its members in the order in which they came. -/
  | table (origin : Origin) (members : List (String × Node))

/-- The members of a table. -/
abbrev Members := List (String × Node)

/-- The member with a name. -/
def lookup (name : String) : Members → Option Node
  | [] => none
  | (other, node) :: rest => if other = name then some node else lookup name rest

/-- The members with another node under a name, which is added when it is new. -/
def replace (name : String) (node : Node) : Members → Members
  | [] => [(name, node)]
  | (other, old) :: rest =>
    if other = name then (name, node) :: rest else (other, old) :: replace name node rest

/-- The members after a header was read. Tables on its path that do not exist are made; the table it
names must not have been named before. -/
def declare : List String → Members → Option Members
  | [], _ => none
  | [name], members =>
    match lookup name members with
    | none => some (replace name (.table .header []) members)
    | some (.table .path inner) => some (replace name (.table .header inner) members)
    | some _ => none
  | name :: next :: rest, members =>
    match lookup name members with
    | none => (declare (next :: rest) []).map fun inner => replace name (.table .path inner) members
    | some (.table origin inner) =>
      (declare (next :: rest) inner).map fun inner => replace name (.table origin inner) members
    | some (.value _) => none

/-- The members of a table after a key was read. Only a key with dots may have made the tables on
its path, and the key must be new. -/
def assign (json : Json) : List String → Members → Option Members
  | [], _ => none
  | [name], members =>
    match lookup name members with
    | none => some (replace name (.value json) members)
    | some _ => none
  | name :: next :: rest, members =>
    match lookup name members with
    | none =>
      (assign json (next :: rest) []).map fun inner => replace name (.table .key inner) members
    | some (.table .key inner) =>
      (assign json (next :: rest) inner).map fun inner => replace name (.table .key inner) members
    | some _ => none

/-- The members after a change to the table at a path. -/
def change (f : Members → Option Members) : List String → Members → Option Members
  | [], members => f members
  | name :: rest, members =>
    match lookup name members with
    | some (.table origin inner) =>
      (change f rest inner).map fun inner => replace name (.table origin inner) members
    | _ => none

/-- What is being read. Parts of keys and items of rows are kept last one first. -/
inductive Phase where
  /-- The start of a line. -/
  | lineStart
  /-- The end of a line. -/
  | lineEnd
  /-- A header, behind a part of its key or behind a dot. -/
  | header (parts : List String) (behindPart : Bool)
  /-- A key, behind a part of it or behind a dot. -/
  | key (parts : List String) (behindPart : Bool)
  /-- The value of a key. -/
  | value (path : List String)
  /-- The row of a key, behind an item or not. -/
  | row (path : List String) (items : List Json) (behindItem : Bool)

/-- What has been read of a document. -/
structure Progress where
  /-- The members of the document. -/
  root : Members
  /-- The path of the table that the last header named. -/
  current : List String
  /-- What is being read. -/
  phase : Phase

/-- The characters of bare keys. -/
def isKeyChar (c : Char) : Bool := c.isAlphanum || c == '_' || c == '-'

/-- A key with one more part. -/
def pushPart (part : String) : List String × Bool → Option (List String × Bool)
  | (parts, false) => some (part :: parts, true)
  | (_, true) => none

/-- A key with the parts and dots of a run. A run between two dots has the empty parts left out. -/
def pushRun (cs : List Char) (key : List String × Bool) : Option (List String × Bool) :=
  match cs.splitOn '.' with
  | [] => none
  | first :: rest => rest.foldlM pushDotted =<< pushBare first key
where
  /-- A key with a bare part, or as it is when the part is empty. -/
  pushBare (part : List Char) (key : List String × Bool) : Option (List String × Bool) :=
    if part.isEmpty then some key
    else if part.all isKeyChar then pushPart (String.ofList part) key
    else none
  /-- A key with a dot, and a bare part behind it unless the part is empty. -/
  pushDotted (key : List String × Bool) (part : List Char) : Option (List String × Bool) :=
    if key.2 then pushBare part (key.1, false) else none

/-- A key with one more token. -/
def pushKey (token : Token) (key : List String × Bool) : Option (List String × Bool) :=
  match token with
  | .quoted s => pushPart s key
  | .run cs => pushRun cs key
  | _ => none

/-- The value of a token. -/
def tokenValue : Token → Option Json
  | .quoted s => some (.string s)
  | .run cs => scalar cs
  | _ => none

namespace Progress

/-- What has been read, with something else being read now. -/
def enter (progress : Progress) (phase : Phase) : Progress := { progress with phase := phase }

/-- The document with a value for a key of the current table. -/
def put (progress : Progress) (path : List String) (json : Json) : Option Progress :=
  (change (assign json path) progress.current progress.root).map fun root =>
    { progress with root := root, phase := .lineEnd }

/-- What has been read after one more token. -/
def step (progress : Progress) (token : Token) : Option Progress :=
  match progress.phase, token with
  | .lineStart, .newline | .lineEnd, .newline => some (progress.enter .lineStart)
  | .lineStart, .opening => some (progress.enter (.header [] false))
  | .lineStart, token =>
    (pushKey token ([], false)).map fun key => progress.enter (.key key.1 key.2)
  | .lineEnd, _ => none
  | .header parts true, .closing =>
    (declare parts.reverse progress.root).map fun root => ⟨root, parts.reverse, .lineEnd⟩
  | .header parts behind, token =>
    (pushKey token (parts, behind)).map fun key => progress.enter (.header key.1 key.2)
  | .key parts true, .equals => some (progress.enter (.value parts.reverse))
  | .key parts behind, token =>
    (pushKey token (parts, behind)).map fun key => progress.enter (.key key.1 key.2)
  | .value path, .opening => some (progress.enter (.row path [] false))
  | .value path, token => (tokenValue token).bind (progress.put path)
  | .row path items behind, .newline => some (progress.enter (.row path items behind))
  | .row path items true, .comma => some (progress.enter (.row path items false))
  | .row path items _, .closing => progress.put path (.array items.reverse)
  | .row path items false, token =>
    (tokenValue token).map fun json => progress.enter (.row path (json :: items) true)
  | .row _ _ true, _ => none

end Progress

mutual

/-- A node as JSON. -/
def Node.toJson : Node → Json
  | .value json => json
  | .table _ members => .object (membersToJson members)

/-- Members as JSON. -/
def membersToJson : Members → List (String × Json)
  | [] => []
  | (name, node) :: rest => (name, node.toJson) :: membersToJson rest

end

/-- The object that a document writes. -/
def parse (cs : List Char) : Option Json := do
  let progress ← (← tokens cs).foldlM Progress.step ⟨[], [], .lineStart⟩
  match progress.phase with
  | .lineStart | .lineEnd => return .object (membersToJson progress.root)
  | _ => none

end Courseware.Toml
