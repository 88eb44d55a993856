/-! # Trees of a page

A page of a web document is a list of `Node`s. Comments are kept, because the texts on their two
sides are two nodes. `Node.text` is the text inside a node and `Node.elements` are the elements of a
node in document order. -/

namespace Courseware.Html

/-- The attributes of an element, in the order in which they are written. -/
abbrev Attributes := List (String × String)

/-- The value of an attribute. -/
def Attributes.value? (attributes : Attributes) (name : String) : Option String :=
  attributes.lookup name

/-- A piece of a page. -/
inductive Node where
  /-- A row of characters. -/
  | text (cs : List Char)
  /-- A comment, whose words are not kept. -/
  | comment
  /-- An element with its tag in lower case. -/
  | element (tag : String) (attributes : Attributes) (children : List Node)
  deriving Repr

/-- The tag of an element. -/
def Node.tag? : Node → Option String
  | .element tag _ _ => some tag
  | _ => none

mutual

/-- All the text inside a node. -/
def Node.innerText : Node → List Char
  | .text cs => cs
  | .comment => []
  | .element _ _ children => Node.innerTextAll children

/-- All the text inside a row of nodes. -/
def Node.innerTextAll : List Node → List Char
  | [] => []
  | node :: nodes => node.innerText ++ Node.innerTextAll nodes

end

/-- An element without its place in the tree. -/
structure Element where
  /-- The tag, in lower case. -/
  tag : String
  /-- The attributes. -/
  attributes : Attributes
  /-- All the text inside. -/
  innerText : List Char
  deriving DecidableEq, Repr

mutual

/-- The elements of a node, itself among them, each before those inside it. -/
def Node.elements : Node → List Element
  | .text _ => []
  | .comment => []
  | .element tag attributes children =>
    ⟨tag, attributes, Node.innerTextAll children⟩ :: Node.elementsAll children

/-- The elements of a row of nodes, in document order. -/
def Node.elementsAll : List Node → List Element
  | [] => []
  | node :: nodes => node.elements ++ Node.elementsAll nodes

end

end Courseware.Html
