/-! # JSON values

A JSON value as it is written: the members of an object stand in the order of the text, and a name
may occur more than once. In a **canonical** value the members of every object are in ascending
order of their names and each name occurs once; `Json.canonical` keeps the last of several members
with one name. -/

namespace Courseware

/-- A JSON number. -/
inductive Json.Number where
  /-- A number written without a point and without an exponent that fits 64 bits. -/
  | integer (n : Int)
  /-- Every other number. -/
  | real (x : Float)

/-- A JSON value. -/
inductive Json where
  /-- The value `null`. -/
  | null
  /-- A truth value. -/
  | bool (b : Bool)
  /-- A number. -/
  | number (n : Json.Number)
  /-- A text. -/
  | string (s : String)
  /-- A row of values. -/
  | array (items : List Json)
  /-- Named values. -/
  | object (members : List (String × Json))

namespace Json

instance : Inhabited Json := ⟨null⟩

/-- A whole number as a JSON value. -/
def nat (n : Nat) : Json := number (.integer n)

/-- The members of an object with one more member, in ascending order of their names. A member of
the same name is replaced. -/
def insert (name : String) (value : Json) : List (String × Json) → List (String × Json)
  | [] => [(name, value)]
  | (other, old) :: rest =>
    if name < other then (name, value) :: (other, old) :: rest
    else if name = other then (name, value) :: rest
    else (other, old) :: insert name value rest

/-- Members in ascending order of their names, the last one of each name. -/
def ordered (members : List (String × Json)) : List (String × Json) :=
  members.foldl (fun done member => insert member.1 member.2 done) []

mutual

/-- The value with the members of every object in order. -/
def canonical : Json → Json
  | array items => array (canonicalItems items)
  | object members => object (ordered (canonicalMembers members))
  | null => null
  | bool b => bool b
  | number n => number n
  | string s => string s

/-- The items in canonical form. -/
def canonicalItems : List Json → List Json
  | [] => []
  | item :: rest => canonical item :: canonicalItems rest

/-- The members with their values in canonical form. -/
def canonicalMembers : List (String × Json) → List (String × Json)
  | [] => []
  | (name, value) :: rest => (name, canonical value) :: canonicalMembers rest

end

/-- The value of the first member with a name. -/
def find? (name : String) : List (String × Json) → Option Json
  | [] => none
  | (other, value) :: rest => if other = name then some value else find? name rest

/-- The value of a member of an object; nothing for other values. -/
def get? (name : String) : Json → Option Json
  | object members => find? name members
  | _ => none

/-- The text, when the value is one. -/
def string? : Json → Option String
  | string s => some s
  | _ => none

/-- The items, when the value is a row. -/
def array? : Json → Option (List Json)
  | array items => some items
  | _ => none

/-- The truth value, when the value is one. -/
def bool? : Json → Option Bool
  | bool b => some b
  | _ => none

/-- The number, when the value is a whole number that is not negative. -/
def nat? : Json → Option Nat
  | number (.integer (.ofNat n)) => some n
  | _ => none

/-- Whether the value is `null`. -/
def isNull : Json → Bool
  | null => true
  | _ => false

/-- Whether the value is an object. -/
def isObject : Json → Bool
  | object _ => true
  | _ => false

end Json

end Courseware
