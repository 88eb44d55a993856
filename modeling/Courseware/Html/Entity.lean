import Courseware.Html.Name

/-! # Character references

A character can be written by its name (`&amp;`) or by its number (`&#65;`, `&#x41;`). `decode` puts
the characters in the place of their references and leaves every other `&` as it is. The oldest
names may go without their semicolon. In the value of an attribute such a name does not count when
a letter, a digit or an equals sign follows, so that addresses keep their parameters. -/

namespace Courseware.Html.Entity

/-- The characters meant by the numbers from 128 to 159, which older pages use for signs. -/
def signs : List Nat :=
  [0x20AC, 0x81, 0x201A, 0x192, 0x201E, 0x2026, 0x2020, 0x2021, 0x2C6, 0x2030, 0x160, 0x2039,
   0x152, 0x8D, 0x17D, 0x8F, 0x90, 0x2018, 0x2019, 0x201C, 0x201D, 0x2022, 0x2013, 0x2014, 0x2DC,
   0x2122, 0x161, 0x203A, 0x153, 0x9D, 0x17E, 0x178]

/-- The character that a name without its semicolon stands for. -/
def namedShort? (name : List Char) : Option Char :=
  (shortNames.lookup (String.ofList name)).map Char.ofNat

/-- The character that a number stands for; the replacement character if there is none. -/
def numbered (n : Nat) : Char :=
  let n := if 0x80 ≤ n then signs.getD (n - 0x80) n else n
  if n = 0 ∨ ¬ n.isValidChar then '\ufffd' else Char.ofNat n

/-- The value of a digit in a base up to sixteen. -/
def digit? (base : Nat) (c : Char) : Option Nat :=
  let value? : Option Nat :=
    if c.isDigit then some (c.toNat - '0'.toNat)
    else if 'a' ≤ c ∧ c ≤ 'f' then some (c.toNat - 'a'.toNat + 10)
    else if 'A' ≤ c ∧ c ≤ 'F' then some (c.toNat - 'A'.toNat + 10)
    else none
  value?.filter (· < base)

/-- The character whose number starts a text, and the text behind it. -/
def ofDigits? (base : Nat) (cs : List Char) : Option (Char × List Char) :=
  match cs.takeWhile fun c => (digit? base c).isSome with
  | [] => none
  | digits =>
    let n := digits.foldl (fun n c => min (base * n + (digit? base c).getD 0) 0x110000) 0
    let rest := cs.drop digits.length
    some (numbered n, if rest.head? = some ';' then rest.tail else rest)

/-- The character whose name without semicolon starts a text, for names of at most `size`
characters, and the text behind it. Of two names the longer one counts. -/
def ofShortName? (cs : List Char) : Nat → Option (Char × List Char)
  | 0 => none
  | size + 1 =>
    match namedShort? (cs.take (size + 1)) with
    | some c => some (c, cs.drop (size + 1))
    | none => ofShortName? cs size

/-- Whether a name without its semicolon counts in the value of an attribute, before this text. -/
def mayEnd (rest : List Char) : Bool :=
  match rest with
  | [] => true
  | c :: _ => !(c.isAlphanum || c == '=')

/-- No name that may go without a semicolon has more characters. -/
def longestShortName : Nat := 6

/-- The characters whose name starts a text, and the text behind it. -/
def ofName? (inValue : Bool) (cs : List Char) : Option (List Char × List Char) :=
  let name := cs.takeWhile Char.isAlphanum
  let rest := cs.drop name.length
  match if rest.head? = some ';' then characters? (String.ofList name) else none with
  | some found => some (found, rest.tail)
  | none =>
    ((ofShortName? cs (min name.length longestShortName)).filter fun found =>
      !inValue || mayEnd found.2).map fun (c, rest) => ([c], rest)

/-- The characters referred to behind an ampersand, and the text behind the reference. -/
def reference? (inValue : Bool) (cs : List Char) : Option (List Char × List Char) :=
  match cs with
  | '#' :: 'x' :: rest | '#' :: 'X' :: rest => (ofDigits? 16 rest).map fun (c, rest) => ([c], rest)
  | '#' :: rest => (ofDigits? 10 rest).map fun (c, rest) => ([c], rest)
  | _ => ofName? inValue cs

/-- What stands for an ampersand and the text behind it, which has no further ampersand. -/
def resolve (inValue : Bool) (cs : List Char) : List Char :=
  match reference? inValue cs with
  | some (found, rest) => found ++ rest
  | none => '&' :: cs

/-- The text with characters in the place of their references. -/
def decode (inValue : Bool) (cs : List Char) : List Char :=
  match cs.splitOn '&' with
  | [] => []
  | first :: parts => first ++ parts.flatMap (resolve inValue)

end Courseware.Html.Entity
