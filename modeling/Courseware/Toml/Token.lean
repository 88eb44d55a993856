/-! # TOML tokens

`Toml.tokens` cuts a document into tokens, one character at a time. Strings are written in one line,
between double quotes with escapes or between single quotes without. A `run` is a row of characters
of which bare keys, numbers and words are made; dots are part of it. -/

namespace Courseware.Toml

/-- A token of a document. -/
inductive Token where
  /-- The end of a line. -/
  | newline
  /-- The sign between a key and its value. -/
  | equals
  /-- The sign between items. -/
  | comma
  /-- An opening bracket. -/
  | opening
  /-- A closing bracket. -/
  | closing
  /-- A text in quotes. -/
  | quoted (s : String)
  /-- A row of letters, digits, dots and signs. -/
  | run (cs : List Char)
  deriving DecidableEq, Repr

/-- Where the scanner stands. What has been read of a token is kept last character first. -/
inductive Mode where
  /-- Between tokens. -/
  | between
  /-- In a run. -/
  | run (done : List Char)
  /-- In a comment. -/
  | comment
  /-- Behind a carriage return, which only a newline may follow. -/
  | carriage
  /-- Between double quotes. -/
  | basic (done : List Char)
  /-- Behind a backslash. -/
  | escape (done : List Char)
  /-- In a numeric escape of which `left` digits are missing. -/
  | hex (done : List Char) (left value : Nat)
  /-- Between single quotes. -/
  | literal (done : List Char)
  deriving DecidableEq, Repr

/-- The characters of runs. -/
def isRunChar (c : Char) : Bool := c.isAlphanum || c == '_' || c == '-' || c == '+' || c == '.'

/-- Control characters, which only the tab among them may stand in comments and strings. -/
def isForbidden (c : Char) : Bool := (c.toNat < 0x20 && c != '\t') || c.toNat == 0x7f

/-- The value of a hexadecimal digit. -/
def hexDigit? (c : Char) : Option Nat :=
  if c.isDigit then some (c.toNat - '0'.toNat)
  else if 'a' ≤ c ∧ c ≤ 'f' then some (c.toNat - 'a'.toNat + 10)
  else if 'A' ≤ c ∧ c ≤ 'F' then some (c.toNat - 'A'.toNat + 10)
  else none

/-- What a character does between tokens. -/
def start (c : Char) : Option (List Token × Mode) :=
  match c with
  | ' ' | '\t' => some ([], .between)
  | '\n' => some ([.newline], .between)
  | '\r' => some ([], .carriage)
  | '#' => some ([], .comment)
  | '"' => some ([], .basic [])
  | '\'' => some ([], .literal [])
  | '=' => some ([.equals], .between)
  | ',' => some ([.comma], .between)
  | '[' => some ([.opening], .between)
  | ']' => some ([.closing], .between)
  | _ => if isRunChar c then some ([], .run [c]) else none

/-- What a character does behind a backslash. -/
def unescape (done : List Char) (c : Char) : Option Mode :=
  match c with
  | 'b' => some (.basic ('\x08' :: done))
  | 't' => some (.basic ('\t' :: done))
  | 'n' => some (.basic ('\n' :: done))
  | 'f' => some (.basic ('\x0c' :: done))
  | 'r' => some (.basic ('\r' :: done))
  | '"' => some (.basic ('"' :: done))
  | '\\' => some (.basic ('\\' :: done))
  | 'u' => some (.hex done 4 0)
  | 'U' => some (.hex done 8 0)
  | _ => none

/-- A digit of a numeric escape, which must give a character. -/
def hexStep (done : List Char) (left value : Nat) (c : Char) : Option Mode :=
  (hexDigit? c).bind fun digit =>
    let value := 16 * value + digit
    if 1 < left then some (.hex done (left - 1) value)
    else if value.isValidChar then some (.basic (Char.ofNat value :: done))
    else none

/-- The tokens that a character ends, and where the scanner stands behind it. -/
def step (mode : Mode) (c : Char) : Option (List Token × Mode) :=
  match mode with
  | .between => start c
  | .run done =>
    if isRunChar c then some ([], .run (c :: done))
    else (start c).map fun (tokens, mode) => (.run done.reverse :: tokens, mode)
  | .comment =>
    if c == '\n' then some ([.newline], .between)
    else if c == '\r' then some ([], .carriage)
    else if isForbidden c then none
    else some ([], .comment)
  | .carriage => if c == '\n' then some ([.newline], .between) else none
  | .basic done =>
    if c == '"' then some ([.quoted (String.ofList done.reverse)], .between)
    else if c == '\\' then some ([], .escape done)
    else if isForbidden c then none
    else some ([], .basic (c :: done))
  | .escape done => (unescape done c).map fun mode => ([], mode)
  | .hex done left value => (hexStep done left value c).map fun mode => ([], mode)
  | .literal done =>
    if c == '\'' then some ([.quoted (String.ofList done.reverse)], .between)
    else if isForbidden c then none
    else some ([], .literal (c :: done))

/-- The tokens that the end of a document ends. -/
def finish : Mode → Option (List Token)
  | .between | .comment => some []
  | .run done => some [.run done.reverse]
  | .carriage | .basic _ | .escape _ | .hex .. | .literal _ => none

/-- The tokens of a document read from a mode, when `done` are the tokens before, last one first. -/
def tokensFrom (done : List Token) (mode : Mode) : List Char → Option (List Token)
  | [] => (finish mode).map fun last => (last.reverse ++ done).reverse
  | c :: cs =>
    match step mode c with
    | none => none
    | some (found, mode) => tokensFrom (found.reverse ++ done) mode cs

/-- The tokens of a document. -/
def tokens (cs : List Char) : Option (List Token) := tokensFrom [] .between cs

end Courseware.Toml
