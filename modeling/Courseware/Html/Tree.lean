import Courseware.Html.Token

/-! # Building the tree of a page

`Html.page` and `Html.fragment` read a page. A page need not close its elements, nor write the
elements around its body: where a tag implies that others have been left out, they are added. The
builder keeps the elements that are still open, the innermost first, and takes one token at a time.

Rows and cells of a table open the parts of the table they need. What else stands between the cells
of a table is moved in front of it.

Not everything that a page may hold is told apart: what stands in a `select` is read like other
content, a section of data is a comment, and emphasis that a closing tag has cut off is not opened
again. What is said of pages elsewhere is said of any way to read them. -/

namespace Courseware.Html

/-- An element that is still open. -/
structure Frame where
  /-- Its tag. -/
  tag : String
  /-- Its attributes. -/
  attributes : Attributes
  /-- Its children so far, last one first. -/
  children : List Node
  /-- Whether it has been moved in front of the table that is open around it. -/
  moved : Bool
  /-- Whether it belongs to a drawing or a formula. -/
  foreign : Bool
  deriving Repr

/-- The element of a frame. -/
def Frame.node (frame : Frame) : Node :=
  .element frame.tag frame.attributes frame.children.reverse

/-- The frame with another child at its end. Rows of characters that meet become one. -/
def Frame.add (frame : Frame) (node : Node) : Frame :=
  match node, frame.children with
  | .text cs, .text before :: rest => { frame with children := .text (before ++ cs) :: rest }
  | _, children => { frame with children := node :: children }

/-! ## Groups of elements -/

/-- Elements without content. -/
def voidTags : List String :=
  ["area", "base", "basefont", "bgsound", "br", "col", "embed", "hr", "img", "input", "keygen",
   "link", "meta", "param", "source", "track", "wbr"]

/-- Elements that end an open paragraph. -/
def paragraphEnding : List String :=
  ["address", "article", "aside", "blockquote", "center", "details", "dialog", "dir", "div", "dl",
   "fieldset", "figcaption", "figure", "footer", "form", "header", "hgroup", "hr", "listing",
   "main", "menu", "nav", "ol", "p", "plaintext", "pre", "search", "section", "summary", "ul",
   "xmp", "h1", "h2", "h3", "h4", "h5", "h6", "li", "dd", "dt"]

/-- Headings. -/
def headings : List String := ["h1", "h2", "h3", "h4", "h5", "h6"]

/-- Elements at which the search for the start of an open element ends. -/
def special : List String :=
  ["address", "applet", "area", "article", "aside", "base", "basefont", "bgsound", "blockquote",
   "body", "br", "button", "caption", "center", "col", "colgroup", "dd", "details", "dir", "div",
   "dl", "dt", "embed", "fieldset", "figcaption", "figure", "footer", "form", "frame", "frameset",
   "h1", "h2", "h3", "h4", "h5", "h6", "head", "header", "hgroup", "hr", "html", "iframe", "img",
   "input", "keygen", "li", "link", "listing", "main", "marquee", "menu", "meta", "nav", "noembed",
   "noframes", "noscript", "object", "ol", "p", "param", "plaintext", "pre", "script", "search",
   "section", "select", "source", "style", "summary", "table", "tbody", "td", "template",
   "textarea", "tfoot", "th", "thead", "title", "tr", "track", "ul", "wbr", "xmp"]

/-- Elements that no closing tag inside them can look beyond. -/
def scopes : List String :=
  ["applet", "body", "caption", "html", "marquee", "object", "table", "td", "template", "th"]

/-- Elements whose closing tag closes them from inside any element but `scopes`. -/
def blocks : List String :=
  ["address", "article", "aside", "blockquote", "button", "center", "details", "dialog", "dir",
   "div", "dl", "fieldset", "figcaption", "figure", "footer", "form", "header", "hgroup", "listing",
   "main", "menu", "nav", "ol", "pre", "search", "section", "summary", "ul", "dd", "dt",
   "applet", "marquee", "object"]

/-- The groups of rows of a table. -/
def rowGroups : List String := ["tbody", "thead", "tfoot"]

/-- The cells of a table. -/
def cells : List String := ["td", "th"]

/-- The parts of a table, in which nothing but other parts and blanks may stand. -/
def tableParts : List String := ["table", "tbody", "thead", "tfoot", "tr"]

/-- Tags that only count inside a table. -/
def tableOnly : List String :=
  ["caption", "col", "colgroup", "tbody", "td", "tfoot", "th", "thead", "tr"]

/-- Elements that end a drawing or a formula. -/
def breakingOut : List String :=
  ["b", "big", "blockquote", "body", "br", "center", "code", "dd", "div", "dl", "dt", "em", "embed",
   "h1", "h2", "h3", "h4", "h5", "h6", "head", "hr", "i", "img", "li", "listing", "menu", "meta",
   "nobr", "ol", "p", "pre", "ruby", "s", "small", "span", "strong", "strike", "sub", "sup",
   "table", "tt", "u", "ul", "var"]

/-- Tags of what stands before the body and has content. -/
def headContent : List String := ["title", "style", "script", "noscript", "noframes"]

/-- Tags of what stands before the body and has no content. -/
def headVoid : List String := ["meta", "link", "base", "basefont", "bgsound"]

/-! ## Open elements -/

/-- The builder. -/
structure Builder where
  /-- The innermost open element. -/
  current : Frame
  /-- The elements around it, innermost first. -/
  outer : List Frame
  /-- Whether the body has begun. -/
  begun : Bool
  /-- The element before the body of which the content is being read. -/
  ignoring : Option String
  /-- Whether a newline that comes next is dropped. -/
  atStart : Bool
  /-- Whether a table ends a paragraph, as in pages that declare their type. -/
  standard : Bool
  deriving Repr

/-- The open elements, innermost first. -/
def Builder.frames (b : Builder) : List Frame := b.current :: b.outer

/-- Add a node to the element around the innermost table of a list of open elements. -/
def addBeforeTable (node : Node) : List Frame → List Frame
  | [] => []
  | table :: parent :: rest =>
    if table.tag == "table" then table :: parent.add node :: rest
    else table :: addBeforeTable node (parent :: rest)
  | [frame] => [frame.add node]

/-- Put a finished element into the element around it, or in front of the open table. -/
def attach (frame : Frame) : List Frame → List Frame
  | [] => []
  | parent :: rest =>
    if frame.moved then addBeforeTable frame.node (parent :: rest)
    else parent.add frame.node :: rest

/-- Close the innermost element. The outermost one stays open. -/
def Builder.pop (b : Builder) : Builder :=
  match attach b.current b.outer with
  | [] => b
  | current :: outer => { b with current, outer }

/-- Close a number of elements. -/
def Builder.popMany (b : Builder) : Nat → Builder
  | 0 => b
  | n + 1 => b.pop.popMany n

/-- How many elements lie inside the innermost one of a class, if no element that stops the search
comes before. -/
def depth? (wanted stops : Frame → Bool) : List Frame → Option Nat
  | [] => none
  | frame :: frames =>
    if wanted frame then some 0
    else if stops frame then none
    else (depth? wanted stops frames).map (· + 1)

/-- Whether a frame of the page itself has one of these tags. -/
def Frame.isOneOf (tags : List String) (frame : Frame) : Bool :=
  !frame.foreign && tags.contains frame.tag

/-- Close the innermost element with one of these tags and all inside it, unless one of the tags
`stops` comes first. -/
def Builder.close (b : Builder) (tags stops : List String) : Builder :=
  match depth? (·.isOneOf tags) (·.isOneOf stops) b.frames with
  | some n => b.popMany (n + 1)
  | none => b

/-- Close all inside the innermost element with one of these tags, if there is one. -/
def Builder.popTo (b : Builder) (tags : List String) : Builder :=
  match depth? (·.isOneOf tags) (fun _ => false) b.frames with
  | some n => b.popMany n
  | none => b

/-- Whether an element with one of these tags is open, before one of `stops`. -/
def Builder.isOpen (b : Builder) (tags stops : List String) : Bool :=
  (depth? (·.isOneOf tags) (·.isOneOf stops) b.frames).isSome

/-- The stops of the search for an open paragraph. -/
def paragraphScope : List String := "button" :: scopes

/-- The stops of the search for an open item of a list. -/
def itemScope : List String := "ol" :: "ul" :: scopes

/-- Close the open paragraph. -/
def Builder.closeParagraph (b : Builder) : Builder := b.close ["p"] paragraphScope

/-- Whether the next node is moved in front of the open table. -/
def Builder.moves (b : Builder) : Bool := b.current.isOneOf tableParts

/-- Add a node to the innermost element. -/
def Builder.add (b : Builder) (node : Node) : Builder :=
  { b with current := b.current.add node }

/-- Add a node that cannot stand between the parts of a table. -/
def Builder.addContent (b : Builder) (node : Node) : Builder :=
  if b.moves then
    match addBeforeTable node b.frames with
    | [] => b
    | current :: outer => { b with current, outer }
  else b.add node

/-- Open an element inside the innermost one. -/
def Builder.push (b : Builder) (tag : String) (attributes : Attributes) : Builder :=
  { b with current := ⟨tag, attributes, [], false, false⟩, outer := b.frames }

/-- Open an element that cannot stand between the parts of a table. -/
def Builder.pushContent (b : Builder) (tag : String) (attributes : Attributes) (foreign : Bool) :
    Builder :=
  { b with current := ⟨tag, attributes, [], b.moves, foreign⟩, outer := b.frames }

/-! ## Tables -/

/-- Whether the builder is in a table. -/
def Builder.inTable (b : Builder) : Bool := b.isOpen ["table"] ["html", "body", "template"]

/-- Close what is open down to the parts of the table that hold groups of rows. -/
def Builder.toTable (b : Builder) : Builder := b.popTo ["table"]

/-- Close what is open down to the group of rows, which is opened if there is none. -/
def Builder.toRows (b : Builder) : Builder :=
  let b := b.popTo ("table" :: rowGroups)
  if b.current.tag == "table" then b.push "tbody" [] else b

/-- Close what is open down to the row, which is opened if there is none. -/
def Builder.toRow (b : Builder) : Builder :=
  let b := b.popTo ("tr" :: "table" :: rowGroups)
  if b.current.tag == "tr" then b else b.toRows.push "tr" []

/-- Open a part of a table. Outside of tables such a tag does not count. -/
def Builder.openPart (b : Builder) (tag : String) (attributes : Attributes) : Builder :=
  if !b.inTable then b
  else if cells.contains tag then b.toRow.push tag attributes
  else if tag == "tr" then b.toRows.push tag attributes
  else if tag == "col" then
    let b := if b.current.tag == "colgroup" then b else b.toTable.push "colgroup" []
    b.add (.element tag attributes [])
  else b.toTable.push tag attributes

/-! ## Tags -/

/-- Close the item, term or description that a new one with one of these tags ends. -/
def Builder.closeItem (b : Builder) (tags : List String) : Builder :=
  b.close tags (special.filter fun tag => tag != "address" && tag != "div" && tag != "p")

/-- Close what an opening tag implies to be closed. -/
def Builder.prepare (b : Builder) (tag : String) : Builder :=
  let b :=
    if tag == "li" then b.closeItem ["li"]
    else if tag == "dd" || tag == "dt" then b.closeItem ["dd", "dt"]
    else b
  let b :=
    if paragraphEnding.contains tag || (tag == "table" && b.standard) then b.closeParagraph else b
  if headings.contains tag && b.current.isOneOf headings then b.pop
  else if (tag == "option" || tag == "optgroup") && b.current.isOneOf ["option"] then b.pop
  else if tag == "button" then b.close ["button"] scopes
  else if tag == "a" then b.close ["a"] special
  else b

/-- Open an element of the body. -/
def Builder.openElement (b : Builder) (tag : String) (attributes : Attributes) : Builder :=
  let b := b.prepare tag
  if voidTags.contains tag then b.addContent (.element tag attributes [])
  else
    let b := b.pushContent tag attributes false
    { b with atStart := tag == "pre" || tag == "listing" || tag == "textarea" }

/-- Open an element of a drawing or a formula. -/
def Builder.openForeign (b : Builder) (tag : String) (attributes : Attributes) (closed : Bool) :
    Builder :=
  if closed then b.addContent (.element tag attributes [])
  else b.pushContent tag attributes true

/-- Close the drawing or formula that is open. -/
def Builder.leaveForeign (b : Builder) : Builder :=
  match depth? (fun frame => !frame.foreign) (fun _ => false) b.frames with
  | some n => b.popMany n
  | none => b

/-- Take an opening tag in the body. -/
def Builder.opening (b : Builder) (tag : String) (attributes : Attributes) (closed : Bool) :
    Builder :=
  if b.current.foreign && !breakingOut.contains tag then b.openForeign tag attributes closed
  else
    let b := if b.current.foreign then b.leaveForeign else b
    if tag == "html" || tag == "head" || tag == "body" || tag == "frame" || tag == "frameset" then b
    else if tableOnly.contains tag then b.openPart tag attributes
    else if tag == "table" && b.current.isOneOf tableParts then
      (b.close ["table"] []).openElement tag attributes
    else if tag == "svg" || tag == "math" then b.openForeign tag attributes closed
    else if tag == "image" then b.openElement "img" attributes
    else b.openElement tag attributes

/-- Close an element by a tag without a rule of its own. -/
def Builder.closeOther (b : Builder) (tag : String) : Builder :=
  match depth? (fun frame => frame.tag == tag) (·.isOneOf special) b.frames with
  | some n => b.popMany (n + 1)
  | none => b

/-- Take a closing tag of an element of the body. -/
def Builder.closeElement (b : Builder) (tag : String) : Builder :=
  if tag == "html" || tag == "head" || tag == "body" then b
  else if tag == "br" then b.openElement "br" []
  else if tag == "p" then
    if b.isOpen ["p"] paragraphScope then b.closeParagraph
    else b.addContent (.element "p" [] [])
  else if tag == "li" then b.close ["li"] itemScope
  else if headings.contains tag then b.close headings scopes
  else if tag == "table" || tableOnly.contains tag then b.close [tag] ["table"]
  else if blocks.contains tag then b.close [tag] scopes
  else b.closeOther tag

/-- Take a closing tag in the body. -/
def Builder.closing (b : Builder) (tag : String) : Builder :=
  if !b.current.foreign then b.closeElement tag
  else if tag == "p" || tag == "br" then b.leaveForeign.closeElement tag
  else
    match depth? (fun frame => frame.foreign && frame.tag == tag) (fun frame => !frame.foreign)
      b.frames with
    | some n => b.popMany (n + 1)
    | none => b.closeElement tag

/-- Take a row of characters in the body. -/
def Builder.text (b : Builder) (cs : List Char) : Builder :=
  let cs := if b.atStart && cs.head? == some '\n' then cs.tail else cs
  if cs.isEmpty then b
  else if cs.all isSpace then b.add (.text cs)
  else b.addContent (.text cs)

/-- Take a token in the body. -/
def Builder.inBody (b : Builder) (token : Token) : Builder :=
  match token with
  | .text cs => { b.text cs with atStart := false }
  | .opening tag attributes closed => { b with atStart := false }.opening tag attributes closed
  | .closing tag => { b with atStart := false }.closing tag
  | .comment => { b with atStart := false }.add .comment
  | .doctype _ => b

/-- Begin the body with a token. -/
def Builder.begin (b : Builder) (token : Token) : Builder :=
  { b with begun := true }.inBody token

/-- Take a token before the body. -/
def Builder.beforeBody (b : Builder) (token : Token) : Builder :=
  match b.ignoring, token with
  | some tag, .closing closed => if closed == tag then { b with ignoring := none } else b
  | some _, _ => b
  | none, .text cs =>
    match cs.dropWhile isSpace with
    | [] => b
    | rest => b.begin (.text rest)
  | none, .comment => b
  | none, .doctype name => { b with standard := name == "html" }
  | none, .opening tag attributes closed =>
    if tag == "body" then { b with begun := true }
    else if tag == "html" || tag == "head" || headVoid.contains tag then b
    else if headContent.contains tag then { b with ignoring := some tag }
    else b.begin (.opening tag attributes closed)
  | none, .closing tag =>
    if tag == "body" || tag == "html" || tag == "br" then b.begin (.closing tag) else b

/-- Take a token. -/
def Builder.step (b : Builder) (token : Token) : Builder :=
  if b.begun then b.inBody token else b.beforeBody token

/-- A builder with nothing but an empty body. -/
def Builder.empty (begun standard : Bool) : Builder :=
  { current := ⟨"body", [], [], false, false⟩, outer := [], begun, ignoring := none,
    atStart := false, standard }

/-- The children of the body when all is closed. -/
def Builder.finish (b : Builder) : List Node :=
  (b.popMany b.outer.length).current.children.reverse

/-- What the body of a page holds. -/
def page (cs : List Char) : List Node :=
  ((tokens cs).foldl Builder.step (.empty false false)).finish

/-- What a piece of the body of a page holds. -/
def fragment (cs : List Char) : List Node :=
  ((tokens cs).foldl Builder.step (.empty true true)).finish

end Courseware.Html
