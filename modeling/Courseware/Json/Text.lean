import Courseware.Json.Failure

/-! # Reading JSON texts

`Json.text` reads a quoted text from behind its opening quote. A character outside the first plane
is one character as such, and a pair of hexadecimal escapes when it is escaped. -/

namespace Courseware.Json

open Failure Text

/-- The value of a hexadecimal digit in either case. -/
def hexDigit? (c : Char) : Option Nat :=
  if c.isDigit then some (c.toNat - '0'.toNat)
  else if 'a' ≤ c ∧ c ≤ 'f' then some (c.toNat - 'a'.toNat + 10)
  else if 'A' ≤ c ∧ c ≤ 'F' then some (c.toNat - 'A'.toNat + 10)
  else none

/-- The value of four hexadecimal digits. -/
def hexValue? (a b c d : Char) : Option Nat :=
  [a, b, c, d].foldlM (fun n digit => (hexDigit? digit).map (16 * n + ·)) 0

/-- The character that stands for a character after a backslash. -/
def unescaped? : Char → Option Char
  | '"' => some '"'
  | '\\' => some '\\'
  | '/' => some '/'
  | 'b' => some '\x08'
  | 'f' => some '\x0c'
  | 'n' => some '\n'
  | 'r' => some '\r'
  | 't' => some '\t'
  | _ => none

/-- Whether a 16-bit unit is the first half of a pair. -/
def isHighHalf (n : Nat) : Bool := 0xD800 ≤ n && n ≤ 0xDBFF

/-- Whether a 16-bit unit is the second half of a pair. -/
def isLowHalf (n : Nat) : Bool := 0xDC00 ≤ n && n ≤ 0xDFFF

/-- The character of a pair of halves. -/
def pairedChar (high low : Nat) : Char :=
  Char.ofNat (0x10000 + (high - 0xD800) * 0x400 + (low - 0xDC00))

/-- The failure where four hexadecimal digits should stand. -/
def badHex (rest : List Char) : Failure :=
  if byteLength rest < 4 then after .eofString [] else ⟨.invalidEscape, rest, 4⟩

/-- Reads the rest of a text, of which `done` has been read, last character first. Gives the text
and what follows its closing quote. -/
def textFrom (done : List Char) : List Char → Except Failure (List Char × List Char)
  | [] => .error (after .eofString [])
  | '"' :: rest => .ok (done.reverse, rest)
  | ['\\'] => .error (after .eofString [])
  | '\\' :: 'u' :: a :: b :: c :: d :: rest =>
    match hexValue? a b c d with
    | none => .error (badHex (a :: b :: c :: d :: rest))
    | some n =>
      if isLowHalf n then .error (after .loneSurrogate rest)
      else if isHighHalf n then
        match rest with
        | [] | ['\\'] => .error (after .eofString [])
        | '\\' :: 'u' :: a₂ :: b₂ :: c₂ :: d₂ :: rest₂ =>
          match hexValue? a₂ b₂ c₂ d₂ with
          | none => .error (badHex (a₂ :: b₂ :: c₂ :: d₂ :: rest₂))
          | some m =>
            if isLowHalf m then textFrom (pairedChar n m :: done) rest₂
            else .error (after .loneSurrogate rest₂)
        | '\\' :: 'u' :: short => .error (badHex short)
        | '\\' :: other => .error ⟨.endOfHexEscape, other, 1⟩
        | other => .error ⟨.endOfHexEscape, other, 1⟩
      else textFrom (Char.ofNat n :: done) rest
  | '\\' :: 'u' :: short => .error (badHex short)
  | '\\' :: c :: rest =>
    match unescaped? c with
    | some x => textFrom (x :: done) rest
    | none => .error ⟨.invalidEscape, c :: rest, 1⟩
  | c :: rest =>
    if c.toNat < 0x20 then .error (after .controlCharacter rest) else textFrom (c :: done) rest

/-- What follows a text is shorter than the text with its closing quote. -/
theorem length_lt_of_textFrom {done cs s rest : List Char} (h : textFrom done cs = .ok (s, rest)) :
    rest.length < cs.length := by
  fun_induction textFrom done cs <;> simp_all <;> omega

/-- Reads a text from behind its opening quote. -/
def text (cs : List Char) : Except Failure (List Char × List Char) := textFrom [] cs

end Courseware.Json
