/-! # Whole numbers in texts

`Text.wholeNumber` reads a text that holds a whole number of 64 bits and nothing else. -/

namespace Courseware.Text

/-- The whole number that a text of decimal digits writes, with or without a plus sign, when it fits
64 bits. -/
def wholeNumber (cs : List Char) : Option Nat :=
  let ds := match cs with
    | '+' :: rest => rest
    | _ => cs
  if ds.isEmpty ∨ ds.all Char.isDigit = false then none
  else
    let n := ds.foldl (fun n c => 10 * n + (c.toNat - '0'.toNat)) 0
    if n < Nat.pow 2 64 then some n else none

end Courseware.Text
