import Courseware.Text.Blank
import Courseware.Text.Search
import Courseware.Token
import Courseware.Chunk.Boundary

/-! # Truncation

`Truncation.truncate` cuts a text down to a number of tokens. A cut prefers the end of a sentence in
the last fifth of the length allowed, then a space in its last tenth. When the estimate is still too
high the length shrinks by a tenth, until it fits or nothing is left. -/

namespace Courseware.Truncation

open Courseware.Text

/-- The start of a text of at most `limit` bytes, cut at a sentence mark or a space when one is
near the limit, and trimmed. -/
def cut (limit : Nat) (cs : List Char) : List Char :=
  let window := takeBytes limit cs
  let sentence := upToLast Boundary.isSentenceMark window
  let phrase := (upToLast (· == ' ') window).dropLast
  if 4 * limit < 5 * (byteLength sentence - 1) then trim sentence
  else if 9 * limit < 10 * byteLength phrase then trim phrase
  else trim window

/-- The cut at the first of the limits `limit`, nine tenths of it and so on that has at most
`maxTokens` tokens. -/
def shrink (maxTokens limit : Nat) (cs : List Char) : List Char :=
  let part := cut limit cs
  if h : limit = 0 ∨ Token.estimate part ≤ maxTokens then part
  else shrink maxTokens (limit * 9 / 10) cs
termination_by limit
decreasing_by omega

/-- A text with at most `maxTokens` tokens: the text itself, or a part from its start. -/
def truncate (maxTokens : Nat) (cs : List Char) : List Char :=
  if Token.estimate cs ≤ maxTokens then cs else shrink maxTokens (Token.toBytes maxTokens) cs

end Courseware.Truncation
