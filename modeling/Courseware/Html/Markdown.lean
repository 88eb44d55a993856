import Courseware.Html.Node
import Courseware.Html.Token
import Courseware.Text.Blank
import Courseware.Text.Numeral
import Courseware.Text.Search
import Courseware.Text.Whole

/-! # Pages as Markdown

`Markdown.ofBody` writes what the body of a page holds as Markdown. Every element is written from
the pieces that its children give, so what is written is kept as an `Output`: the pieces of the
element at hand and those of the elements around it. A child may still change the spaces at the end
of what is already there. -/

namespace Courseware.Html.Markdown

/-- Elements around which lines end, and in which a single space between elements is nothing. -/
def containers : List String :=
  ["html", "body", "div", "ul", "ol", "li", "table", "tr", "header", "head", "footer", "nav",
   "section", "article", "aside", "main", "blockquote", "script", "style"]

/-- Elements around which lines end. -/
def blocks : List String :=
  containers ++ ["p", "h1", "h2", "h3", "h4", "h5", "h6", "pre", "hr", "br"]

/-- Elements that are not written. -/
def skipped : List String := ["script", "style", "noscript", "iframe", "svg", "head"]

/-- Elements written as blocks of their own without a mark. -/
def plainBlocks : List String :=
  ["p", "pre", "body", "div", "table", "tr", "td", "header", "footer", "nav", "section", "article",
   "aside", "main"]

/-- Whether lines end around a node. -/
def isBlock (node : Node) : Bool :=
  match node.tag? with
  | some tag => blocks.contains tag
  | none => false

/-! ## Pieces -/

/-- Whether a character is a newline. -/
def isNewline (c : Char) : Bool := c == '\n'

/-- The text without the characters of a class at its start. -/
def stripStart (p : Char → Bool) (cs : List Char) : List Char := cs.dropWhile p

/-- The text without the characters of a class at its end. -/
def stripEnd (p : Char → Bool) (cs : List Char) : List Char := (cs.reverse.dropWhile p).reverse

/-- The text without the characters of a class at both ends. -/
def strip (p : Char → Bool) (cs : List Char) : List Char := stripEnd p (stripStart p cs)

/-- Two texts one behind the other. Of the newlines where they meet the longer row is kept, up to
two. -/
def seam (left right : List Char) : List Char :=
  let before := (left.reverse.takeWhile isNewline).length
  let behind := (right.takeWhile isNewline).length
  stripEnd isNewline left ++ List.replicate (min 2 (max before behind)) '\n' ++
    stripStart isNewline right

/-- The text of pieces given last one first. -/
def joined (pieces : List (List Char)) : List Char :=
  match pieces.filter fun piece => !piece.isEmpty with
  | [] => []
  | last :: earlier => seam [] (earlier.foldl (fun text piece => seam piece text) last)

/-- What is written: for the element at hand and for each element around it, innermost first, its
pieces so far, last one first. -/
abbrev Output := List (List (List Char))

/-- The piece written last. -/
def Output.last? (out : Output) : Option (List Char) := out.flatten.head?

/-- Strip the characters of a class from the end of the last piece, and go on with the piece before
as long as there is something to strip. The answer tells whether the search has ended. -/
def stripPieces (p : Char → Bool) : List (List Char) → List (List Char) × Bool
  | [] => ([], false)
  | piece :: pieces =>
    let kept := stripEnd p piece
    if kept.length = piece.length then (piece :: pieces, true)
    else
      let (pieces, ended) := stripPieces p pieces
      (kept :: pieces, ended)

/-- Strip the spaces from the end of what is written. -/
def Output.stripSpaces : Output → Output
  | [] => []
  | level :: levels =>
    let (level, ended) := stripPieces (· == ' ') level
    if ended then level :: levels else level :: Output.stripSpaces levels

/-- Write a piece. -/
def Output.push (out : Output) (piece : List Char) : Output :=
  match out with
  | [] => [[piece]]
  | level :: levels => (piece :: level) :: levels

/-! ## Texts -/

/-- The mark of code. -/
def backtick : Char := '\x60'

/-- Put a backslash before each character that has a meaning everywhere. -/
def escapeMarks (cs : List Char) : List Char :=
  cs.flatMap fun c => if c ∈ ['\\', '*', '_', backtick, '[', ']'] then ['\\', c] else [c]

/-- Whether a text starts like a heading: with number signs and a space. -/
def startsHeading (cs : List Char) : Bool := (cs.dropWhile (· == '#')).head? == some ' '

/-- The text with the character before its first space escaped as the dot of a number, if the text
starts like a numbered item. `before` holds the characters before, last one first. -/
def escapeNumberFrom (digit dot : Bool) (before : List Char) : List Char → Option (List Char)
  | [] => none
  | c :: cs =>
    if Text.isNumeral c then escapeNumberFrom true dot (c :: before) cs
    else if c == '.' then
      if digit then escapeNumberFrom digit true (c :: before) cs else none
    else if c == ' ' && dot then some (before.tail.reverse ++ '\\' :: '.' :: c :: cs)
    else none

/-- Escape what has a meaning only at the start of a text. -/
def escapeStart (cs : List Char) : List Char :=
  match cs with
  | [] => []
  | c :: rest =>
    if c == '=' || c == '~' || c == '>' then '\\' :: cs
    else if c == '-' || c == '+' then if rest.head? == some ' ' then '\\' :: cs else cs
    else if c == '#' then if startsHeading cs then '\\' :: cs else cs
    else if c.isDigit then (escapeNumberFrom false false [] cs).getD cs
    else cs

/-- The text with one space for every row of spaces and newlines. -/
def collapse (cs : List Char) : List Char :=
  cs.foldr (fun c rest =>
    if isSpace c then if rest.head? == some ' ' then rest else ' ' :: rest else c :: rest) []

/-- Where a node stands. -/
structure Place where
  /-- The tag of the element around it. -/
  parent : String
  /-- The attributes of the element around it. -/
  attributes : Attributes
  /-- How many items of a list stand before it in that element. -/
  items : Nat
  /-- Whether spaces and newlines count. -/
  verbatim : Bool
  deriving DecidableEq, Repr

/-- The piece for a row of characters that is not kept as it stands. `trimming` says that the spaces
at its start are dropped. -/
def flowing (place : Place) (trimming : Bool) (out : Output) (cs : List Char) :
    Option (List Char) :=
  let text := collapse (escapeStart (escapeMarks cs))
  if text == [' '] && containers.contains place.parent then none
  else if trimming || (text.head? == some ' ' && out.last?.any fun p => p.getLast? == some ' ') then
    some (stripStart (· == ' ') text)
  else some text

/-- The piece for a row of characters kept as it stands. -/
def standing (place : Place) (cs : List Char) : List Char :=
  if place.parent == "pre" && (cs.head? == some backtick || cs.head? == some '~') then '\\' :: cs
  else cs

/-! ## Elements -/

/-- The lines of a text; a newline at its end starts no line. -/
def linesOf (cs : List Char) : List (List Char) :=
  let lines := Text.lines cs
  if lines.getLast? == some [] then lines.dropLast else lines

/-- The text as a block of its own. -/
def block (cs : List Char) : List Char := '\n' :: '\n' :: cs ++ ['\n', '\n']

/-- The text in its marks, with the blanks at its ends outside of them. -/
def around (before behind cs : List Char) : List Char :=
  let text := Text.trimStart cs
  cs.takeWhile Text.isBlank ++ before ++ Text.trimEnd text ++ behind ++
    (text.reverse.takeWhile Text.isBlank).reverse

/-- The text emphasised; blanks alone are nothing. -/
def emphasis (mark cs : List Char) : Option (List Char) :=
  if Text.isBlankText cs then none else some (around mark mark cs)

/-- A title or the text for an image: its lines without spaces around them, and without empty lines;
quotes are escaped. -/
def titleText (s : String) : List Char :=
  let lines := (linesOf s.toList).map (strip isSpace)
  Text.joinWith ['\n'] ((lines.filter fun line => !line.isEmpty).map fun line =>
    line.flatMap fun c => if c == '"' then ['\\', '"'] else [c])

/-- The target of a link or an image with its title. -/
def target (address : String) (title : Option String) : List Char :=
  let link := address.toList.flatMap fun c => if c == '(' || c == ')' then ['\\', c] else [c]
  let title := match title with
    | some title => ' ' :: '"' :: titleText title ++ ['"']
    | none => []
  if link.contains ' ' then '<' :: link ++ title ++ ['>'] else link ++ title

/-- A link around its text. -/
def link (attributes : Attributes) (cs : List Char) : List Char :=
  match attributes.value? "href" with
  | none => cs
  | some address =>
    around ['['] (']' :: '(' :: target address (attributes.value? "title") ++ [')']) cs

/-- An image, unless it has no source. -/
def image (attributes : Attributes) : Option (List Char) :=
  (attributes.value? "src").map fun source =>
    '!' :: '[' :: titleText ((attributes.value? "alt").getD "") ++
      ']' :: '(' :: target source (attributes.value? "title") ++ [')']

/-- A heading of a level. -/
def heading (level : Nat) (cs : List Char) : List Char :=
  block (List.replicate level '#' ++ ' ' :: strip isSpace cs)

/-- A quotation, with a mark before each line. -/
def quotation (cs : List Char) : List Char :=
  let lines := linesOf (stripEnd isSpace (stripStart isNewline cs))
  block (Text.joinWith ['\n'] (lines.map fun line => '>' :: ' ' :: line))

/-- A list, which is a part of the item around it or a block of its own. -/
def list (place : Place) (cs : List Char) : List Char :=
  let text := strip isNewline cs
  if place.parent == "li" then '\n' :: text ++ ['\n'] else block text

/-- The mark before an item: a number in numbered lists, else a star. -/
def itemMark (place : Place) : List Char :=
  if place.parent == "ol" then
    let start := ((place.attributes.value? "start").bind fun s => Text.wholeNumber s.toList).getD 1
    (toString (start + place.items)).toList ++ ['.', ' ', ' ']
  else ['*', ' ', ' ', ' ']

/-- The lines of an item, of which all but the first are indented. -/
def itemLines (cs : List Char) : List (List Char) :=
  match (linesOf (stripStart isSpace cs)).map Text.trimEnd with
  | [] => []
  | first :: rest => first :: rest.map fun line => ' ' :: ' ' :: ' ' :: ' ' :: line

/-- An item of a list. -/
def item (place : Place) (cs : List Char) : List Char :=
  '\n' :: itemMark place ++ Text.joinWith ['\n'] (itemLines cs) ++ ['\n']

/-- Where the first backtick without a neighbour stands in a text. -/
def loneBacktick? (cs : List Char) : Option Nat :=
  let before := '\x00' :: cs
  let behind := cs.drop 1 ++ ['\x00']
  (List.zip before (List.zip cs behind)).findIdx? fun (b, c, a) =>
    c == backtick && b != backtick && a != backtick

/-- Code within a line. -/
def inlineCode (cs : List Char) : List Char :=
  let text := Text.trim cs
  match loneBacktick? text with
  | none => backtick :: text ++ [backtick]
  | some 0 => backtick :: backtick :: ' ' :: text ++ [' ', backtick, backtick]
  | some _ => backtick :: backtick :: text ++ [backtick, backtick]

/-- The language that the classes of an element name. -/
def language? (attributes : Attributes) : Option (List Char) :=
  let mark := "language-".toList
  (attributes.value? "class").bind fun names =>
    ((names.toList.splitOn ' ').find? mark.isPrefixOf).map fun name => name.drop mark.length

/-- How many backticks fence a text: three, or one more than it has in a row, up to five. -/
def fenceSize (cs : List Char) : Nat :=
  if Text.count (List.replicate 4 backtick) cs ≠ 0 then 5
  else if Text.count (List.replicate 3 backtick) cs ≠ 0 then 4
  else 3

/-- Code in lines of its own, with its language if the element or the one around it names one. -/
def codeBlock (place : Place) (attributes : Attributes) (cs : List Char) : List Char :=
  let text := if cs.getLast? == some '\n' then cs.dropLast else cs
  let fence := List.replicate (fenceSize text) backtick
  let language := ((language? attributes).or (language? place.attributes)).getD []
  fence ++ language ++ '\n' :: text ++ '\n' :: fence

/-- The piece for an element with the text of its children. -/
def element (place : Place) (tag : String) (attributes : Attributes) (cs : List Char) :
    Option (List Char) :=
  if skipped.contains tag then none
  else if plainBlocks.contains tag then some (block cs)
  else match tag with
    | "h1" => some (heading 1 cs)
    | "h2" => some (heading 2 cs)
    | "h3" => some (heading 3 cs)
    | "h4" => some (heading 4 cs)
    | "h5" => some (heading 5 cs)
    | "h6" => some (heading 6 cs)
    | "b" | "strong" => emphasis ['*', '*'] cs
    | "i" | "em" => emphasis ['_'] cs
    | "br" => some [' ', ' ', '\n']
    | "hr" => some (block ['*', ' ', '*', ' ', '*'])
    | "blockquote" => some (quotation cs)
    | "ul" | "ol" => some (list place cs)
    | "li" => some (item place cs)
    | "a" => some (link attributes cs)
    | "img" => image attributes
    | "code" =>
      if place.parent == "pre" then some (codeBlock place attributes cs) else some (inlineCode cs)
    | _ => some cs

/-- Where the children of an element stand. -/
def Place.inside (place : Place) (tag : String) (attributes : Attributes) : Place :=
  ⟨tag, attributes, 0, place.verbatim || tag == "pre" || tag == "code"⟩

/-- The place behind a node. -/
def Place.behind (place : Place) (node : Node) : Place :=
  if node.tag? == some "li" then { place with items := place.items + 1 } else place

mutual

/-- The piece that a node gives, and what is written before it. -/
def written (place : Place) (trimming : Bool) (out : Output) : Node → Option (List Char) × Output
  | .comment => (none, out)
  | .text cs =>
    if place.verbatim then (some (standing place cs), out)
    else (flowing place trimming out cs, out)
  | .element tag attributes children =>
    match writtenAll (place.inside tag attributes) (blocks.contains tag) ([] :: out) children with
    | [] => (none, [])
    | pieces :: out => (element place tag attributes (joined pieces), out)

/-- What is written behind a row of nodes. -/
def writtenAll (place : Place) (trimming : Bool) (out : Output) : List Node → Output
  | [] => out
  | node :: nodes =>
    let out := if isBlock node then out.stripSpaces else out
    match written place trimming out node with
    | (none, out) => writtenAll (place.behind node) trimming out nodes
    | (some piece, out) => writtenAll (place.behind node) (isBlock node) (out.push piece) nodes

end

/-- What the body of a page holds, as Markdown. -/
def ofBody (children : List Node) : List Char :=
  match written ⟨"html", [], 0, false⟩ true [] (.element "body" [] children) with
  | (some piece, _) => strip isNewline (stripEnd isSpace piece)
  | (none, _) => []

end Courseware.Html.Markdown
