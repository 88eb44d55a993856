import Mathlib.Data.List.Infix
import Mathlib.Order.Bounds.Basic
import Courseware.Proofs.Text.Cut
import Courseware.Proofs.Text.Trim

/-! # Offsets into the bytes of a text

A text can be divided at an offset where a character begins, or where the text ends; the byte that
stands there tells which offsets these are (`isCharBoundary_iff`). A search that goes back or on
from an offset, byte by byte, comes to such a place before it leaves the text (`floorFound?_eq`,
`ceilFound?_eq`). A slice is taken only between two of them, the first no later than the second
(`slice?`), and what the searches find always allows it.

`none` stands for a search that leaves the text and for a slice that splits a character. -/

namespace Courseware.Text

/-! ## Where characters begin -/

/-- The bytes of a text. -/
def bytes (cs : List Char) : List UInt8 := cs.flatMap String.utf8EncodeChar

/-- **Whether a text can be divided at an offset**, by the byte that stands there: it is the first
one of a character, or there is none because the text ends. -/
def isCharBoundary (cs : List Char) (n : Nat) : Bool :=
  match (bytes cs)[n]? with
  | some b => decide b.IsUTF8FirstByte
  | none => n == (bytes cs).length

/-- The boundaries of a text with a first character: the one before it, and those behind it. -/
theorem isBoundary_cons_iff {c : Char} {cs : List Char} {n : Nat} :
    IsBoundary (c :: cs) n ↔ n = 0 ∨ c.utf8Size ≤ n ∧ IsBoundary cs (n - c.utf8Size) := by
  constructor
  · rintro ⟨xs, hxs, rfl⟩
    cases xs with
    | nil => exact Or.inl rfl
    | cons x xs =>
        obtain ⟨rfl, hrest⟩ := List.cons_prefix_cons.mp hxs
        refine Or.inr ⟨?_, xs, hrest, ?_⟩ <;> rw [byteLength_cons] <;> omega
  · rintro (rfl | ⟨hle, xs, hxs, hn⟩)
    · exact isBoundary_zero _
    · refine ⟨c :: xs, List.cons_prefix_cons.mpr ⟨rfl, hxs⟩, ?_⟩
      rw [byteLength_cons]
      omega

/-- **The bytes tell the boundaries of a text.** -/
theorem isCharBoundary_iff {cs : List Char} {n : Nat} :
    isCharBoundary cs n = true ↔ IsBoundary cs n := by
  induction cs generalizing n with
  | nil =>
      have hnone : isCharBoundary [] n = (n == 0) := rfl
      rw [hnone, beq_iff_eq]
      exact ⟨fun hn => hn ▸ isBoundary_zero [], fun hn => Nat.le_zero.mp hn.le⟩
  | cons c cs ih =>
      have hbytes : bytes (c :: cs) = String.utf8EncodeChar c ++ bytes cs := rfl
      have hsize := String.length_utf8EncodeChar c
      rw [isBoundary_cons_iff, isCharBoundary, hbytes]
      rcases Nat.lt_or_ge n c.utf8Size with hinside | hbehind
      · -- Of the bytes of the first character only the first one begins a character.
        rw [List.getElem?_append_left (by omega), List.getElem?_eq_getElem (by omega)]
        simp only [decide_eq_true_eq, UInt8.isUTF8FirstByte_getElem_utf8EncodeChar]
        constructor
        · exact Or.inl
        · rintro (rfl | ⟨hle, -⟩)
          · rfl
          · omega
      · have hne : n ≠ 0 := fun hn => absurd c.utf8Size_pos (by omega)
        rw [List.getElem?_append_right (by omega), hsize, ← ih, isCharBoundary, List.length_append,
          hsize]
        cases (bytes cs)[n - c.utf8Size]? with
        | some b => simp only [hne, hbehind, false_or, true_and]
        | none =>
            simp only [beq_iff_eq]
            omega

/-! ## The nearest boundaries -/

/-- **Cutting down** gives the greatest boundary that is not behind the offset. -/
theorem isGreatest_floorBoundary (cs : List Char) (n : Nat) :
    IsGreatest {b | IsBoundary cs b ∧ b ≤ n} (floorBoundary cs n) := by
  refine ⟨⟨⟨_, takeBytes_isPrefix n cs, rfl⟩, byteLength_takeBytes_le n cs⟩, ?_⟩
  rintro _ ⟨⟨xs, hxs, rfl⟩, hle⟩
  exact byteLength_le_of_isPrefix (prefix_takeBytes hxs hle)

/-- **Cutting up** gives the least boundary that is not before an offset in the text. -/
theorem isLeast_ceilBoundary {cs : List Char} {n : Nat} (h : n ≤ byteLength cs) :
    IsLeast {b | IsBoundary cs b ∧ n ≤ b} (ceilBoundary cs n) := by
  refine ⟨⟨⟨_, ⟨_, takeBytesUp_append_dropBytesUp n cs⟩, rfl⟩, le_byteLength_takeBytesUp h⟩, ?_⟩
  rintro _ ⟨⟨xs, hxs, rfl⟩, hle⟩
  exact byteLength_le_of_isPrefix (takeBytesUp_isPrefix_of_le hxs hle)

/-- Cutting down behind the end takes the whole text. -/
theorem takeBytes_of_le {cs : List Char} {n : Nat} (h : byteLength cs ≤ n) : takeBytes n cs = cs :=
  (takeBytes_isPrefix n cs).eq_of_length_le (prefix_takeBytes (List.prefix_refl cs) h).length_le

/-- Cutting up behind the end takes the whole text. -/
theorem takeBytesUp_of_le {cs : List Char} {n : Nat} (h : byteLength cs ≤ n) :
    takeBytesUp n cs = cs := by
  induction cs generalizing n with
  | nil => simp [takeBytesUp]
  | cons c cs ih =>
      have hpos := c.utf8Size_pos
      rw [byteLength_cons] at h
      cases n with
      | zero => omega
      | succ n => rw [takeBytesUp, ih (by omega)]

/-- Cutting up takes one character for one byte. -/
theorem takeBytesUp_one (cs : List Char) : takeBytesUp 1 cs = cs.take 1 := by
  cases cs with
  | nil => rfl
  | cons c cs =>
      have hsize := c.utf8Size_pos
      have hnone : 1 - c.utf8Size = 0 := by omega
      rw [takeBytesUp, Nat.zero_add, hnone]
      cases cs <;> rfl

/-- **Cutting down** gives the greatest boundary that is not behind the offset or the end. -/
theorem isGreatest_floorBoundary_min (cs : List Char) (n : Nat) :
    IsGreatest {b | isCharBoundary cs b = true ∧ b ≤ min n (byteLength cs)}
      (floorBoundary cs n) := by
  obtain ⟨⟨hbound, hle⟩, hgreatest⟩ := isGreatest_floorBoundary cs n
  refine ⟨⟨isCharBoundary_iff.mpr hbound, Nat.le_min.mpr ⟨hle, hbound.le⟩⟩, ?_⟩
  rintro b ⟨hb, hmin⟩
  exact hgreatest ⟨isCharBoundary_iff.mp hb, (Nat.le_min.mp hmin).1⟩

/-- **Cutting up** gives the least boundary that is not before the offset, or not before the end. -/
theorem isLeast_ceilBoundary_min (cs : List Char) (n : Nat) :
    IsLeast {b | isCharBoundary cs b = true ∧ min n (byteLength cs) ≤ b} (ceilBoundary cs n) := by
  have hceil : ceilBoundary cs n = ceilBoundary cs (min n (byteLength cs)) := by
    rcases Nat.le_total n (byteLength cs) with hin | hall
    · rw [Nat.min_eq_left hin]
    · rw [Nat.min_eq_right hall, ceilBoundary, ceilBoundary, takeBytesUp_of_le hall,
        takeBytesUp_of_le (Nat.le_refl _)]
  rw [hceil]
  obtain ⟨⟨hbound, hle⟩, hleast⟩ := isLeast_ceilBoundary (Nat.min_le_right n (byteLength cs))
  refine ⟨⟨isCharBoundary_iff.mpr hbound, hle⟩, ?_⟩
  rintro b ⟨hb, hmin⟩
  exact hleast ⟨isCharBoundary_iff.mp hb, hmin⟩

section Behind

variable {xs ys : List Char} {n : Nat}

/-- Behind a start of a text the rest is cut down. -/
theorem floorBoundary_append (h : byteLength xs ≤ n) :
    floorBoundary (xs ++ ys) n = byteLength xs + floorBoundary ys (n - byteLength xs) := by
  rw [floorBoundary, floorBoundary, ← byteLength_append]
  congr 1
  induction xs generalizing n with
  | nil => rfl
  | cons x xs ih =>
      rw [byteLength_cons] at h
      rw [List.cons_append, takeBytes, if_pos (by omega), ih (by omega), byteLength_cons,
        Nat.sub_add_eq, List.cons_append]

/-- Behind a start of a text the rest is cut up. -/
theorem ceilBoundary_append (h : byteLength xs ≤ n) :
    ceilBoundary (xs ++ ys) n = byteLength xs + ceilBoundary ys (n - byteLength xs) := by
  rw [ceilBoundary, ceilBoundary, ← byteLength_append]
  congr 1
  induction xs generalizing n with
  | nil => rfl
  | cons x xs ih =>
      have hpos := x.utf8Size_pos
      rw [byteLength_cons] at h
      cases n with
      | zero => omega
      | succ n =>
          rw [List.cons_append, takeBytesUp, ih (by omega), byteLength_cons, Nat.sub_add_eq,
            List.cons_append]

/-- Behind a start of a text, cutting down finds no room for a character, or takes what fits of the
rest. -/
theorem floorBoundary_append_cases (xs ys : List Char) (n : Nat) :
    (floorBoundary (xs ++ ys) n ≤ byteLength xs ∧ takeBytes (n - byteLength xs) ys = []) ∨
      (floorBoundary (xs ++ ys) n = byteLength xs + byteLength (takeBytes (n - byteLength xs) ys) ∧
        takeBytes (n - byteLength xs) ys ≠ []) := by
  rcases Nat.lt_or_ge n (byteLength xs) with hbefore | hbehind
  · have hfloor : floorBoundary (xs ++ ys) n ≤ n := byteLength_takeBytes_le _ _
    have hnone := byteLength_takeBytes_le (n - byteLength xs) ys
    refine Or.inl ⟨by omega, byteLength_eq_zero_iff.mp (by omega)⟩
  · have hfloor : floorBoundary (xs ++ ys) n =
        byteLength xs + floorBoundary ys (n - byteLength xs) := floorBoundary_append hbehind
    by_cases hnil : takeBytes (n - byteLength xs) ys = []
    · refine Or.inl ⟨?_, hnil⟩
      rw [hfloor, floorBoundary, hnil]
      exact Nat.le_refl _
    · exact Or.inr ⟨hfloor, hnil⟩

end Behind

/-! ## Searches byte by byte -/

/-- The search that goes back from an offset. -/
def backFrom? (cs : List Char) : Nat → Option Nat
  | 0 => if isCharBoundary cs 0 then some 0 else none
  | n + 1 => if isCharBoundary cs (n + 1) then some (n + 1) else backFrom? cs n

/-- The search that goes on from an offset. -/
def onFrom? (cs : List Char) (n : Nat) : Option Nat :=
  if isCharBoundary cs n then some n
  else if n < byteLength cs then onFrom? cs (n + 1) else none
termination_by byteLength cs - n

/-- The boundary found by going back from an offset, or the end of the text when the offset is not
in the text. -/
def floorFound? (cs : List Char) (n : Nat) : Option Nat :=
  if byteLength cs ≤ n then some (byteLength cs) else backFrom? cs n

/-- The boundary found by going on from an offset, or the end of the text when the offset is not in
the text. -/
def ceilFound? (cs : List Char) (n : Nat) : Option Nat :=
  if byteLength cs ≤ n then some (byteLength cs) else onFrom? cs n

/-- **Going back** ends at the greatest boundary that is not behind the offset. -/
theorem exists_backFrom?_eq (cs : List Char) (n : Nat) :
    ∃ b, backFrom? cs n = some b ∧ IsGreatest {b | IsBoundary cs b ∧ b ≤ n} b := by
  induction n with
  | zero =>
      have hzero := isBoundary_zero cs
      refine ⟨0, ?_, ⟨hzero, Nat.le_refl 0⟩, fun b hb => hb.2⟩
      rw [backFrom?, if_pos (isCharBoundary_iff.mpr hzero)]
  | succ n ih =>
      rw [backFrom?]
      split
      · rename_i hhere
        exact ⟨n + 1, rfl, ⟨isCharBoundary_iff.mp hhere, Nat.le_refl _⟩, fun b hb => hb.2⟩
      · rename_i hnot
        obtain ⟨b, hb, ⟨hbound, hle⟩, hgreatest⟩ := ih
        refine ⟨b, hb, ⟨hbound, Nat.le_succ_of_le hle⟩, fun b' hb' => hgreatest ⟨hb'.1, ?_⟩⟩
        -- The offset itself is no boundary.
        refine Nat.le_of_lt_succ (Nat.lt_of_le_of_ne hb'.2 ?_)
        rintro rfl
        exact hnot (isCharBoundary_iff.mpr hb'.1)

/-- **Going on** ends at the least boundary that is not before an offset in the text. -/
theorem exists_onFrom?_eq {cs : List Char} {n : Nat} (h : n ≤ byteLength cs) :
    ∃ b, onFrom? cs n = some b ∧ IsLeast {b | IsBoundary cs b ∧ n ≤ b} b := by
  induction n using onFrom?.induct cs with
  | case1 n hhere =>
      rw [onFrom?, if_pos hhere]
      exact ⟨n, rfl, ⟨isCharBoundary_iff.mp hhere, Nat.le_refl n⟩, fun b hb => hb.2⟩
  | case2 n hnot hlt ih =>
      obtain ⟨b, hb, ⟨hbound, hle⟩, hleast⟩ := ih hlt
      rw [onFrom?, if_neg hnot, if_pos hlt]
      refine ⟨b, hb, ⟨hbound, by omega⟩, fun b' hb' => hleast ⟨hb'.1, ?_⟩⟩
      refine Nat.lt_of_le_of_ne hb'.2 ?_
      rintro rfl
      exact hnot (isCharBoundary_iff.mpr hb'.1)
  | case3 n hnot hlt =>
      -- The end of the text is a boundary.
      obtain rfl : n = byteLength cs := by omega
      exact absurd (isCharBoundary_iff.mpr (isBoundary_byteLength cs)) hnot

/-- **The search that goes back stays in the text** and finds what cutting down gives. -/
theorem floorFound?_eq (cs : List Char) (n : Nat) :
    floorFound? cs n = some (floorBoundary cs n) := by
  rw [floorFound?]
  split
  · rename_i hall
    rw [floorBoundary, takeBytes_of_le hall]
  · obtain ⟨b, hb, hgreatest⟩ := exists_backFrom?_eq cs n
    rw [hb, hgreatest.unique (isGreatest_floorBoundary cs n)]

/-- **The search that goes on stays in the text** and finds what cutting up gives. -/
theorem ceilFound?_eq (cs : List Char) (n : Nat) :
    ceilFound? cs n = some (ceilBoundary cs n) := by
  rw [ceilFound?]
  split
  · rename_i hall
    rw [ceilBoundary, takeBytesUp_of_le hall]
  · rename_i hin
    obtain ⟨b, hb, hleast⟩ := exists_onFrom?_eq (Nat.le_of_not_le hin)
    rw [hb, hleast.unique (isLeast_ceilBoundary (Nat.le_of_not_le hin))]

/-! ## Slices -/

/-- **The slice between two offsets**, when the text can be divided at both and the second is not
before the first. -/
def slice? (cs : List Char) (start stop : Nat) : Option (List Char) :=
  if start ≤ stop ∧ isCharBoundary cs start ∧ isCharBoundary cs stop then some (slice cs start stop)
  else none

/-- **A part of a text is a slice** between the offsets at which it begins and ends. -/
theorem slice?_eq_some {cs xs ys zs : List Char} {start stop : Nat} (hcs : cs = xs ++ ys ++ zs)
    (hstart : start = byteLength xs) (hstop : stop = byteLength xs + byteLength ys) :
    slice? cs start stop = some ys := by
  subst hcs hstart hstop
  have hbegins : IsBoundary (xs ++ ys ++ zs) (byteLength xs) := by
    rw [List.append_assoc]
    exact isBoundary_append xs (ys ++ zs)
  have hends : IsBoundary (xs ++ ys ++ zs) (byteLength xs + byteLength ys) := by
    rw [← byteLength_append]
    exact isBoundary_append (xs ++ ys) zs
  rw [slice?, if_pos ⟨Nat.le_add_right _ _, isCharBoundary_iff.mpr hbegins,
    isCharBoundary_iff.mpr hends⟩, slice_append]

/-- The start of a text is a slice. -/
theorem slice?_zero (xs ys : List Char) : slice? (xs ++ ys) 0 (byteLength xs) = some xs := by
  have hsplit : xs ++ ys = [] ++ xs ++ ys := rfl
  exact slice?_eq_some hsplit rfl (Nat.zero_add _).symm

/-- The slice from the start of a text to the boundary found by going back from an offset. -/
def head? (n : Nat) (cs : List Char) : Option (List Char) := do
  let stop ← floorFound? cs n
  slice? cs 0 stop

/-- The slice to the end of a text from the boundary found by going on from `n` bytes before it. -/
def tail? (n : Nat) (cs : List Char) : Option (List Char) := do
  let start ← ceilFound? cs (byteLength cs - n)
  slice? cs start (byteLength cs)

/-- **The longest start of a text** of at most `n` bytes. -/
def IsLongestStart (n : Nat) (cs part : List Char) : Prop :=
  part <+: cs ∧ byteLength part ≤ n ∧
    ∀ other, other <+: cs → byteLength other ≤ n → other <+: part

/-- **The longest end of a text** of at most `n` bytes. -/
def IsLongestEnd (n : Nat) (cs part : List Char) : Prop :=
  part <:+ cs ∧ byteLength part ≤ n ∧
    ∀ other, other <:+ cs → byteLength other ≤ n → other <:+ part

/-- The slice at the start is what cutting down takes. -/
theorem head?_eq (n : Nat) (cs : List Char) : head? n cs = some (takeBytes n cs) := by
  have hslice := slice?_zero (takeBytes n cs) (dropBytes n cs)
  rw [takeBytes_append_dropBytes] at hslice
  rw [head?, floorFound?_eq]
  exact hslice

/-- The slice at the end is what cutting up leaves. -/
theorem tail?_eq (n : Nat) (cs : List Char) : tail? n cs = some (takeLastBytes n cs) := by
  have hparts := takeBytesUp_append_dropBytesUp (byteLength cs - n) cs
  rw [← takeLastBytes] at hparts
  have hsplit : cs = takeBytesUp (byteLength cs - n) cs ++ takeLastBytes n cs ++ [] := by
    rw [List.append_nil, hparts]
  rw [tail?, ceilFound?_eq]
  refine slice?_eq_some hsplit rfl ?_
  rw [← byteLength_append, hparts]

/-- What cutting down takes is the longest start. -/
theorem isLongestStart_takeBytes (n : Nat) (cs : List Char) :
    IsLongestStart n cs (takeBytes n cs) :=
  ⟨takeBytes_isPrefix n cs, byteLength_takeBytes_le n cs, fun _ => prefix_takeBytes⟩

/-- What cutting up leaves is the longest end. -/
theorem isLongestEnd_takeLastBytes (n : Nat) (cs : List Char) :
    IsLongestEnd n cs (takeLastBytes n cs) := by
  obtain ⟨-, -, -, hsize⟩ := exists_append_takeLastBytes n cs
  refine ⟨dropBytesUp_isSuffix _ cs, hsize, ?_⟩
  rintro other ⟨front, rfl⟩ hle
  -- What stands before a shorter end reaches the cut.
  have hreach : byteLength (front ++ other) - n ≤ byteLength front := by
    rw [byteLength_append]
    omega
  obtain ⟨between, hbetween⟩ := takeBytesUp_isPrefix_of_le (List.prefix_append front other) hreach
  have hsplit := takeBytesUp_append_dropBytesUp (byteLength (front ++ other) - n) (front ++ other)
  generalize takeBytesUp (byteLength (front ++ other) - n) (front ++ other) = lead
    at hbetween hsplit
  have hrest : lead ++ takeLastBytes n (front ++ other) = lead ++ (between ++ other) := by
    rw [takeLastBytes, hsplit, ← List.append_assoc, hbetween]
  exact ⟨between, (List.append_cancel_left hrest).symm⟩

/-! ## The last character of a class -/

/-- The offset at which the last character of a class begins. -/
def lastOffset? (p : Char → Bool) : List Char → Option Nat
  | [] => none
  | c :: cs =>
    match lastOffset? p cs with
    | some n => some (c.utf8Size + n)
    | none => if p c then some 0 else none

section Last

variable {p : Char → Bool}

/-- There is no last character of a class of which there is none. -/
theorem lastOffset?_eq_none {cs : List Char} (h : ∀ c ∈ cs, p c = false) :
    lastOffset? p cs = none := by
  induction cs with
  | nil => rfl
  | cons c cs ih =>
      obtain ⟨hc, hcs⟩ := List.forall_mem_cons.mp h
      rw [lastOffset?, ih hcs, hc]
      rfl

/-- The last character of a class is the one behind which no other one stands. -/
theorem lastOffset?_append_cons {c : Char} {ys : List Char} (xs : List Char) (hc : p c = true)
    (hys : ∀ y ∈ ys, p y = false) : lastOffset? p (xs ++ c :: ys) = some (byteLength xs) := by
  induction xs with
  | nil =>
      rw [List.nil_append, lastOffset?, lastOffset?_eq_none hys, hc]
      rfl
  | cons x xs ih => rw [List.cons_append, lastOffset?, ih, byteLength_cons]

/-- **The part up to the last character of a class** ends with that character, whose offset is the
size of what stands before it. -/
theorem lastOffset?_cases (p : Char → Bool) (cs : List Char) :
    (lastOffset? p cs = none ∧ upToLast p cs = []) ∨
      ∃ xs c ys, cs = xs ++ c :: ys ∧ p c = true ∧ lastOffset? p cs = some (byteLength xs) ∧
        upToLast p cs = xs ++ [c] := by
  rcases upToLast_cases p cs with ⟨hnil, hnone⟩ | ⟨xs, c, ys, hcs, hc, hys, hup⟩
  · exact Or.inl ⟨lastOffset?_eq_none hnone, hnil⟩
  · exact Or.inr ⟨xs, c, ys, hcs, hc, hcs ▸ lastOffset?_append_cons xs hc hys, hup⟩

end Last

end Courseware.Text
