import Courseware.Text.Bytes

/-! # Why and where reading JSON fails

A `Failure` has a reason and a place. The place is the number of bytes read so far, or one more
when the reader only looked at the next byte; it is reported as a line and the bytes of that line
up to the place. -/

namespace Courseware.Json

open Text

/-- Why a text is not JSON. -/
inductive Reason where
  | eofValue
  | eofString
  | eofList
  | eofObject
  | expectedValue
  | expectedIdentifier
  | expectedColon
  | expectedCommaOrBracket
  | expectedCommaOrBrace
  | trailingComma
  | trailingCharacters
  | keyNotString
  | recursionLimit
  | invalidNumber
  | numberOutOfRange
  | invalidEscape
  | controlCharacter
  | loneSurrogate
  | endOfHexEscape
  deriving DecidableEq, Repr

/-- The words for a reason. -/
def Reason.message : Reason → String
  | eofValue => "EOF while parsing a value"
  | eofString => "EOF while parsing a string"
  | eofList => "EOF while parsing a list"
  | eofObject => "EOF while parsing an object"
  | expectedValue => "expected value"
  | expectedIdentifier => "expected ident"
  | expectedColon => "expected `:`"
  | expectedCommaOrBracket => "expected `,` or `]`"
  | expectedCommaOrBrace => "expected `,` or `\x7d`"
  | trailingComma => "trailing comma"
  | trailingCharacters => "trailing characters"
  | keyNotString => "key must be a string"
  | recursionLimit => "recursion limit exceeded"
  | invalidNumber => "invalid number"
  | numberOutOfRange => "number out of range"
  | invalidEscape => "invalid escape"
  | controlCharacter => "control character (\\u0000-\\u001F) found while parsing a string"
  | loneSurrogate => "lone leading surrogate in hex escape"
  | endOfHexEscape => "unexpected end of hex escape"

/-- A failed reading: the place lies `beyond` bytes after the start of `rest`, or at the end of the
text when that is nearer. -/
structure Failure where
  /-- Why reading failed. -/
  reason : Reason
  /-- The end of the text that begins where the reader stood. -/
  rest : List Char
  /-- Bytes of `rest` before the place. -/
  beyond : Nat
  deriving DecidableEq, Repr

namespace Failure

/-- A failure after everything that was read. -/
def after (reason : Reason) (rest : List Char) : Failure := ⟨reason, rest, 0⟩

/-- A failure at the next byte. -/
def atNext (reason : Reason) (rest : List Char) : Failure := ⟨reason, rest, 1⟩

/-- The bytes of a text before the place of a failure. -/
def offset (failure : Failure) (cs : List Char) : Nat :=
  min (byteLength cs) (byteLength cs - byteLength failure.rest + failure.beyond)

end Failure

/-- The line of an offset, from one. -/
def line (cs : List Char) (offset : Nat) : Nat := (takeBytes offset cs).count '\n' + 1

/-- The bytes of its line before an offset. -/
def column (cs : List Char) (offset : Nat) : Nat :=
  let newline := (takeBytes offset cs).reverse.dropWhile (· != '\n')
  offset - byteLength newline.reverse

/-- The text of a failure to read `cs`. -/
def Failure.message (failure : Failure) (cs : List Char) : String :=
  let offset := failure.offset cs
  failure.reason.message ++ " at line " ++ toString (line cs offset) ++ " column "
    ++ toString (column cs offset)

end Courseware.Json
