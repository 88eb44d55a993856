/-! # Searching and splitting

Places in a text found by a character or by a pattern: the part up to the last character of a class
(`upToLast`), the number of occurrences of a pattern that do not overlap (`count`), the two sides
of the first occurrence of a pattern (`splitOnce?`), and the lines of a text. -/

namespace Courseware.Text

/-- The text up to and with its last character in the class `p`; empty when there is none. -/
def upToLast (p : Char → Bool) (cs : List Char) : List Char :=
  (cs.reverse.dropWhile fun c => !p c).reverse

/-- The text from its first character in the class `p` on; empty when there is none. -/
def fromFirst (p : Char → Bool) (cs : List Char) : List Char := cs.dropWhile fun c => !p c

/-- Occurrences of `pattern` from left to right, where the next `skip` characters belong to one
already counted. -/
def countFrom (pattern : List Char) : Nat → List Char → Nat
  | _, [] => 0
  | skip + 1, _ :: cs => countFrom pattern skip cs
  | 0, c :: cs =>
    if pattern.isPrefixOf (c :: cs) then countFrom pattern (pattern.length - 1) cs + 1
    else countFrom pattern 0 cs

/-- How often a pattern occurs in a text, without overlaps, from left to right. The pattern has at
least one character. -/
def count (pattern cs : List Char) : Nat := countFrom pattern 0 cs

/-- The text before and after the first occurrence of a pattern. -/
def splitOnce? (pattern : List Char) : List Char → Option (List Char × List Char)
  | [] => if pattern.isEmpty then some ([], []) else none
  | c :: cs =>
    if pattern.isPrefixOf (c :: cs) then some ([], (c :: cs).drop pattern.length)
    else (splitOnce? pattern cs).map fun (before, after) => (c :: before, after)

/-- The lines of a text: what stands between its newlines. The last line may be empty. -/
def lines (cs : List Char) : List (List Char) := cs.splitOn '\n'

/-- Texts joined with a separator between them. -/
def joinWith (separator : List Char) (parts : List (List Char)) : List Char :=
  separator.intercalate parts

/-- ASCII letters in lower case; every other character stays. -/
def lowercase (cs : List Char) : List Char := cs.map Char.toLower

/-- Whether two texts are equal up to the case of ASCII letters. -/
def sameIgnoringCase (xs ys : List Char) : Bool := lowercase xs == lowercase ys

end Courseware.Text
