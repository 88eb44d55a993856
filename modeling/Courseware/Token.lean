import Courseware.Text.Bytes

/-! # Token estimates

A language model counts text in tokens. `Token.estimate` guesses their number without a tokenizer:
thirteen tokens for ten words (`Token.countWords`), and one for four bytes in a text without words.
A budget of tokens becomes a length by `Token.toBytes`. -/

namespace Courseware.Token

open Courseware.Text

/-- The letters a word may begin with: ASCII letters and the apostrophe. -/
def startsWord (c : Char) : Bool := c.isAlpha || c == '\''

/-- The characters a word goes on with: those it may begin with, and the hyphen. -/
def continuesWord (c : Char) : Bool := startsWord c || c == '-'

/-- The words that begin in a text, read from inside a word or from outside one. -/
def countWordsFrom : Bool → List Char → Nat
  | _, [] => 0
  | true, c :: cs => countWordsFrom (continuesWord c) cs
  | false, c :: cs => if startsWord c then countWordsFrom true cs + 1 else countWordsFrom false cs

/-- The number of words: maximal runs of ASCII letters, apostrophes and hyphens that do not begin
with a hyphen. -/
def countWords (cs : List Char) : Nat := countWordsFrom false cs

/-- Bytes per token where a text has no words, and where a budget becomes a length. -/
def bytesPerToken : Nat := 4

/-- The estimated number of tokens: 1.3 per word rounded down, a quarter of the bytes when there
are no words, and at least one unless the text is empty. -/
def estimate (cs : List Char) : Nat :=
  if cs.isEmpty then 0
  else
    let words := countWords cs
    max 1 (if words = 0 then byteLength cs / bytesPerToken else 13 * words / 10)

/-- The greatest size that fits a machine word. -/
def maxSize : Nat := Nat.pow 2 64 - 1

/-- A token budget as a length in bytes, capped at the greatest size. -/
def toBytes (tokens : Nat) : Nat := min (tokens * bytesPerToken) maxSize

end Courseware.Token
