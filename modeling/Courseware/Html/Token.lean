import Courseware.Html.Entity
import Courseware.Html.Node
import Courseware.Text.Search

/-! # Tokens of a page

`Html.tokens` cuts the text of a page into tags, comments and the rows of characters between them,
one character at a time. No text is refused: what cannot be a tag is a row of characters. Behind the
opening tag of a script, a style sheet and the like the text runs to their closing tag, whatever it
holds. Tags and the names of attributes are in lower case, and character references are resolved. -/

namespace Courseware.Html

/-- A token of a page. -/
inductive Token where
  /-- A row of characters. -/
  | text (cs : List Char)
  /-- An opening tag; `closed` says that it ends with a slash. -/
  | opening (tag : String) (attributes : Attributes) (closed : Bool)
  /-- A closing tag. -/
  | closing (tag : String)
  /-- A comment. -/
  | comment
  /-- A declaration of the type of the page. -/
  | doctype (name : String)
  deriving DecidableEq, Repr

/-- The characters that separate the parts of a tag. -/
def isSpace (c : Char) : Bool :=
  c == ' ' || c == '\t' || c == '\n' || c == '\x0c' || c == '\r'

/-- The text with the replacement character in the place of the character zero. -/
def withoutZero (cs : List Char) : List Char := cs.map fun c => if c == '\x00' then '\ufffd' else c

/-- The elements whose content is a row of characters as it stands. -/
def verbatimTags : List String :=
  ["script", "style", "noscript", "iframe", "noembed", "noframes", "xmp"]

/-- The elements whose content is a row of characters with references. -/
def plainTags : List String := ["title", "textarea"]

/-- A tag as far as it has been read. -/
structure Draft where
  /-- Whether it is a closing tag. -/
  closes : Bool
  /-- Its name, last character first. -/
  name : List Char
  /-- Its attributes, last one first. -/
  attributes : Attributes
  deriving DecidableEq, Repr

/-- Where the scanner stands. What has been read of a token is kept last character first. -/
inductive Mode where
  /-- In a row of characters. -/
  | text (done : List Char)
  /-- Behind the `<` that ends a row, perhaps. -/
  | opening (done : List Char)
  /-- Behind the `</` that ends a row, perhaps. -/
  | closing (done : List Char)
  /-- In the name of a tag. -/
  | name (tag : Draft)
  /-- Between the attributes of a tag. -/
  | gap (tag : Draft)
  /-- In the name of an attribute. -/
  | key (tag : Draft) (done : List Char)
  /-- Behind the name of an attribute. -/
  | afterKey (tag : Draft) (key : List Char)
  /-- Behind the equals sign of an attribute. -/
  | beforeValue (tag : Draft) (key : List Char)
  /-- In a value, which ends at the quote if it has one. -/
  | value (tag : Draft) (key : List Char) (quote : Option Char) (done : List Char)
  /-- Behind a slash in a tag. -/
  | slash (tag : Draft)
  /-- Behind `<!`, before it is clear what is declared. -/
  | declaration (done : List Char)
  /-- In a comment. -/
  | comment (done : List Char)
  /-- In a comment that ends at the next `>`. -/
  | remark
  /-- In a declaration of the type of the page. -/
  | doctype (done : List Char)
  /-- In the content of an element that only its closing tag ends. -/
  | content (tag : String) (decoded : Bool) (done : List Char)
  /-- In the content of an element that nothing ends. -/
  | remainder (done : List Char)
  deriving DecidableEq, Repr

/-- The token for a row of characters, unless it is empty. -/
def textToken (cs : List Char) : List Token := if cs.isEmpty then [] else [.text cs]

/-- The token for a row read last character first; references are resolved. -/
def decodedToken (done : List Char) : List Token :=
  textToken (Entity.decode false (done.reverse.filter (· != '\x00')))

/-- The text of a name read last character first. -/
def nameOf (done : List Char) : String := String.ofList (Text.lowercase (withoutZero done.reverse))

/-- The tag with an attribute more. Of attributes with one name the first counts. -/
def Draft.with (tag : Draft) (key value : List Char) : Draft :=
  let key := nameOf key
  if (tag.attributes.lookup key).isSome then tag
  else
    let value := String.ofList (Entity.decode true (withoutZero value.reverse))
    { tag with attributes := (key, value) :: tag.attributes }

/-- The scanner behind an opening tag. -/
def modeBehind (tag : String) : Mode :=
  if verbatimTags.contains tag then .content tag false []
  else if plainTags.contains tag then .content tag true []
  else if tag == "plaintext" then .remainder []
  else .text []

/-- The token of a finished tag, and the scanner behind it. -/
def Draft.finish (tag : Draft) (closed : Bool) : List Token × Mode :=
  let name := nameOf tag.name
  if tag.closes then ([.closing name], .text [])
  else ([.opening name tag.attributes.reverse closed], modeBehind name)

/-- What a character does in a row of characters. -/
def textStep (done : List Char) (c : Char) : List Token × Mode :=
  if c == '<' then ([], .opening done) else ([], .text (c :: done))

/-- What a character does behind `<`. -/
def openingStep (done : List Char) (c : Char) : List Token × Mode :=
  if c.isAlpha then (decodedToken done, .name ⟨false, [c], []⟩)
  else if c == '/' then ([], .closing done)
  else if c == '!' then (decodedToken done, .declaration [])
  else if c == '?' then (decodedToken done, .remark)
  else textStep ('<' :: done) c

/-- What a character does behind `</`. -/
def closingStep (done : List Char) (c : Char) : List Token × Mode :=
  if c.isAlpha then (decodedToken done, .name ⟨true, [c], []⟩)
  else if c == '>' then (decodedToken done, .text [])
  else (decodedToken done, .remark)

/-- What a character does between the attributes of a tag. -/
def gapStep (tag : Draft) (c : Char) : List Token × Mode :=
  if isSpace c then ([], .gap tag)
  else if c == '/' then ([], .slash tag)
  else if c == '>' then tag.finish false
  else ([], .key tag [c])

/-- What a character does in the name of a tag. -/
def nameStep (tag : Draft) (c : Char) : List Token × Mode :=
  if isSpace c || c == '/' || c == '>' then gapStep tag c
  else ([], .name { tag with name := c :: tag.name })

/-- What a character does behind the name of an attribute. -/
def afterKeyStep (tag : Draft) (key : List Char) (c : Char) : List Token × Mode :=
  if isSpace c then ([], .afterKey tag key)
  else if c == '=' then ([], .beforeValue tag key)
  else gapStep (tag.with key []) c

/-- What a character does in the name of an attribute. -/
def keyStep (tag : Draft) (done : List Char) (c : Char) : List Token × Mode :=
  if isSpace c || c == '/' || c == '>' || c == '=' then afterKeyStep tag done c
  else ([], .key tag (c :: done))

/-- What a character does behind the equals sign of an attribute. -/
def beforeValueStep (tag : Draft) (key : List Char) (c : Char) : List Token × Mode :=
  if isSpace c then ([], .beforeValue tag key)
  else if c == '"' || c == '\'' then ([], .value tag key (some c) [])
  else if c == '>' then (tag.with key []).finish false
  else ([], .value tag key none [c])

/-- What a character does in a value. -/
def valueStep (tag : Draft) (key : List Char) (quote : Option Char) (done : List Char) (c : Char) :
    List Token × Mode :=
  match quote with
  | some q =>
    if c == q then ([], .gap (tag.with key done)) else ([], .value tag key quote (c :: done))
  | none =>
    if isSpace c then ([], .gap (tag.with key done))
    else if c == '>' then (tag.with key done).finish false
    else ([], .value tag key none (c :: done))

/-- What a character does behind a slash in a tag. -/
def slashStep (tag : Draft) (c : Char) : List Token × Mode :=
  if c == '>' then tag.finish true else gapStep tag c

/-- What a character does in a comment that ends at the next `>`. -/
def remarkStep (c : Char) : List Token × Mode :=
  if c == '>' then ([.comment], .text []) else ([], .remark)

/-- What a character does behind `<!`. -/
def declarationStep (done : List Char) (c : Char) : List Token × Mode :=
  let seen := Text.lowercase (c :: done).reverse
  if seen = ['-', '-'] then ([], .comment [])
  else if seen = "doctype".toList then ([], .doctype [])
  else if seen.isPrefixOf ['-', '-'] || seen.isPrefixOf "doctype".toList then
    ([], .declaration (c :: done))
  else remarkStep c

/-- Whether a `>` ends a comment of which this has been read, last character first. -/
def endsComment (done : List Char) : Bool :=
  match done with
  | [] | ['-'] => true
  | '-' :: '-' :: _ => true
  | '!' :: '-' :: '-' :: _ => true
  | _ => false

/-- What a character does in a comment. -/
def commentStep (done : List Char) (c : Char) : List Token × Mode :=
  if c == '>' && endsComment done then ([.comment], .text []) else ([], .comment (c :: done))

/-- The name in a declaration of the type of the page. -/
def doctypeName (done : List Char) : String :=
  String.ofList (Text.lowercase ((done.reverse.dropWhile isSpace).takeWhile fun c => !isSpace c))

/-- What a character does in a declaration of the type of the page. -/
def doctypeStep (done : List Char) (c : Char) : List Token × Mode :=
  if c == '>' then ([.doctype (doctypeName done)], .text []) else ([], .doctype (c :: done))

/-- The token for the content of an element that only its closing tag ends. -/
def contentToken (decoded : Bool) (done : List Char) : List Token :=
  let cs := withoutZero done.reverse
  textToken (if decoded then Entity.decode false cs else cs)

/-- What a character does in the content of an element that only its closing tag ends. -/
def contentStep (tag : String) (decoded : Bool) (done : List Char) (c : Char) :
    List Token × Mode :=
  let mark := ('<' :: '/' :: tag.toList).reverse
  if (isSpace c || c == '/' || c == '>') && mark.isPrefixOf (Text.lowercase (done.take mark.length))
  then
    let (found, mode) := gapStep ⟨true, tag.toList.reverse, []⟩ c
    (contentToken decoded (done.drop mark.length) ++ found, mode)
  else ([], .content tag decoded (c :: done))

/-- The tokens that a character ends, and where the scanner stands behind it. -/
def step (mode : Mode) (c : Char) : List Token × Mode :=
  match mode with
  | .text done => textStep done c
  | .opening done => openingStep done c
  | .closing done => closingStep done c
  | .name tag => nameStep tag c
  | .gap tag => gapStep tag c
  | .key tag done => keyStep tag done c
  | .afterKey tag key => afterKeyStep tag key c
  | .beforeValue tag key => beforeValueStep tag key c
  | .value tag key quote done => valueStep tag key quote done c
  | .slash tag => slashStep tag c
  | .declaration done => declarationStep done c
  | .comment done => commentStep done c
  | .remark => remarkStep c
  | .doctype done => doctypeStep done c
  | .content tag decoded done => contentStep tag decoded done c
  | .remainder done => ([], .remainder (c :: done))

/-- The tokens that the end of the page ends. A tag that has not been closed is dropped. -/
def finish : Mode → List Token
  | .text done => decodedToken done
  | .opening done => decodedToken ('<' :: done)
  | .closing done => decodedToken ('/' :: '<' :: done)
  | .name _ | .gap _ | .key .. | .afterKey .. | .beforeValue .. | .value .. | .slash _ => []
  | .declaration _ | .comment _ | .remark => [.comment]
  | .doctype done => [.doctype (doctypeName done)]
  | .content _ decoded done => contentToken decoded done
  | .remainder done => contentToken false done

/-- The tokens of a text read from a mode, when `done` are the tokens before, last one first. -/
def tokensFrom (done : List Token) (mode : Mode) : List Char → List Token
  | [] => ((finish mode).reverse ++ done).reverse
  | c :: cs => tokensFrom ((step mode c).1.reverse ++ done) (step mode c).2 cs

/-- The text with a newline at every end of a line, whatever ends it, behind what `done` holds last
character first. -/
def withNewlinesFrom (done : List Char) : List Char → List Char
  | [] => done.reverse
  | '\r' :: '\n' :: cs => withNewlinesFrom ('\n' :: done) cs
  | '\r' :: cs => withNewlinesFrom ('\n' :: done) cs
  | c :: cs => withNewlinesFrom (c :: done) cs

/-- The tokens of a page. A byte order mark at its start is not part of it. -/
def tokens (cs : List Char) : List Token :=
  tokensFrom [] (.text [])
    (withNewlinesFrom [] (if cs.head? = some '\ufeff' then cs.tail else cs))

end Courseware.Html
