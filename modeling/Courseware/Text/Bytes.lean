/-! # Sizes and cuts in bytes

Sizes are counted in the bytes of the UTF-8 form, and a cut never splits a character. The two
ways to cut `cs` at `n` bytes are **down**, to the last place between characters at or before `n`
(`takeBytes`, the longest start of at most `n` bytes), and **up**, to the first one at or after `n`
(`takeBytesUp`, the shortest start of at least `n` bytes). Offsets past the end mean the end. -/

namespace Courseware.Text

/-- The number of bytes of a text. -/
def byteLength : List Char → Nat
  | [] => 0
  | c :: cs => c.utf8Size + byteLength cs

/-- The longest start of at most `n` bytes. -/
def takeBytes : Nat → List Char → List Char
  | _, [] => []
  | n, c :: cs => if c.utf8Size ≤ n then c :: takeBytes (n - c.utf8Size) cs else []

/-- What follows the longest start of at most `n` bytes. -/
def dropBytes : Nat → List Char → List Char
  | _, [] => []
  | n, c :: cs => if c.utf8Size ≤ n then dropBytes (n - c.utf8Size) cs else c :: cs

/-- The shortest start of at least `n` bytes, or the whole text. -/
def takeBytesUp : Nat → List Char → List Char
  | _, [] => []
  | 0, _ => []
  | n + 1, c :: cs => c :: takeBytesUp (n + 1 - c.utf8Size) cs

/-- What follows the shortest start of at least `n` bytes. -/
def dropBytesUp : Nat → List Char → List Char
  | _, [] => []
  | 0, cs => cs
  | n + 1, c :: cs => dropBytesUp (n + 1 - c.utf8Size) cs

/-- The greatest offset between characters that is at most `n`. -/
def floorBoundary (cs : List Char) (n : Nat) : Nat := byteLength (takeBytes n cs)

/-- The least offset between characters that is at least `n`, or the length. -/
def ceilBoundary (cs : List Char) (n : Nat) : Nat := byteLength (takeBytesUp n cs)

/-- The longest end of at most `n` bytes. -/
def takeLastBytes (n : Nat) (cs : List Char) : List Char := dropBytesUp (byteLength cs - n) cs

@[simp] theorem byteLength_append (xs ys : List Char) :
    byteLength (xs ++ ys) = byteLength xs + byteLength ys := by
  induction xs with
  | nil => simp [byteLength]
  | cons c xs ih => simp [byteLength, ih, Nat.add_assoc]

/-- Cutting down splits the text in two. -/
theorem takeBytes_append_dropBytes (n : Nat) (cs : List Char) :
    takeBytes n cs ++ dropBytes n cs = cs := by
  induction cs generalizing n with
  | nil => simp [takeBytes, dropBytes]
  | cons c cs ih => by_cases h : c.utf8Size ≤ n <;> simp [takeBytes, dropBytes, h, ih]

/-- Cutting up splits the text in two. -/
theorem takeBytesUp_append_dropBytesUp (n : Nat) (cs : List Char) :
    takeBytesUp n cs ++ dropBytesUp n cs = cs := by
  induction cs generalizing n with
  | nil => cases n <;> simp [takeBytesUp, dropBytesUp]
  | cons c cs ih => cases n <;> simp [takeBytesUp, dropBytesUp, ih]

/-- What follows a cut is no longer than the text. -/
theorem length_dropBytesUp_le (n : Nat) (cs : List Char) :
    (dropBytesUp n cs).length ≤ cs.length := by
  have h := congrArg List.length (takeBytesUp_append_dropBytesUp n cs)
  simp only [List.length_append] at h
  omega

/-- Cutting up at a positive offset takes at least one character. -/
theorem length_dropBytesUp_lt {n : Nat} {cs : List Char} (hn : 0 < n) (hcs : cs ≠ []) :
    (dropBytesUp n cs).length < cs.length := by
  match n, cs with
  | n + 1, c :: cs =>
    have h := length_dropBytesUp_le (n + 1 - c.utf8Size) cs
    simp only [dropBytesUp, List.length_cons]
    omega

/-- The number of bytes of a string. -/
def size (s : String) : Nat := byteLength s.toList

end Courseware.Text
