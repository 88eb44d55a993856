import Mathlib.Data.List.Infix
import Courseware.Text.Bytes

/-! # Boundaries and slices of a text

Cutting by bytes never splits a character. An offset at which a text may be divided is a
**boundary** (`IsBoundary`), and the part between two boundaries is a **slice** (`slice`). The
lemmas say which start of a text each way of cutting takes: `takeBytes` the longest one within the
size, `takeBytesUp` the shortest one that reaches it. -/

namespace Courseware.Text

/-- **A boundary of a text**: some start of the text ends at this offset. -/
def IsBoundary (cs : List Char) (n : Nat) : Prop := ∃ xs, xs <+: cs ∧ byteLength xs = n

/-- **The slice of a text** from the offset `a` to the offset `b`. -/
def slice (cs : List Char) (a b : Nat) : List Char := takeBytes (b - a) (dropBytes a cs)

/-! ## Sizes -/

@[simp] theorem byteLength_nil : byteLength [] = 0 := rfl

@[simp] theorem byteLength_cons (c : Char) (cs : List Char) :
    byteLength (c :: cs) = c.utf8Size + byteLength cs := rfl

/-- Only the empty text has no bytes. -/
@[simp] theorem byteLength_eq_zero_iff {cs : List Char} : byteLength cs = 0 ↔ cs = [] := by
  cases cs with
  | nil => simp
  | cons c cs =>
      have hc := c.utf8Size_pos
      simp only [byteLength_cons, reduceCtorEq, iff_false]
      omega

/-- A text with a character has bytes. -/
theorem byteLength_pos_iff {cs : List Char} : 0 < byteLength cs ↔ cs ≠ [] := by
  rw [Nat.pos_iff_ne_zero, Ne, byteLength_eq_zero_iff]

/-- A part of a text is no larger than the text. -/
theorem byteLength_le_of_isInfix {part cs : List Char} (h : part <:+: cs) :
    byteLength part ≤ byteLength cs := by
  obtain ⟨lead, trail, rfl⟩ := h
  simp only [byteLength_append]
  omega

/-- A start of a text is no larger than the text. -/
theorem byteLength_le_of_isPrefix {xs cs : List Char} (h : xs <+: cs) :
    byteLength xs ≤ byteLength cs :=
  byteLength_le_of_isInfix h.isInfix

/-- Of two starts of one text the smaller is a start of the larger. -/
theorem prefix_of_byteLength_le {xs ys cs : List Char} (hx : xs <+: cs) (hy : ys <+: cs)
    (h : byteLength xs ≤ byteLength ys) : xs <+: ys := by
  rcases List.prefix_or_prefix_of_prefix hx hy with hxy | hyx
  · exact hxy
  · obtain ⟨zs, rfl⟩ := hyx
    rw [byteLength_append] at h
    have hz : zs = [] := byteLength_eq_zero_iff.mp (by omega)
    simp [hz]

/-- Two starts of one text with the same size are equal. -/
theorem eq_of_byteLength_eq {xs ys cs : List Char} (hx : xs <+: cs) (hy : ys <+: cs)
    (h : byteLength xs = byteLength ys) : xs = ys :=
  (prefix_of_byteLength_le hx hy h.le).eq_of_length_le
    (prefix_of_byteLength_le hy hx h.ge).length_le

/-! ## Cutting down -/

/-- What is cut down is a start of the text. -/
theorem takeBytes_isPrefix (n : Nat) (cs : List Char) : takeBytes n cs <+: cs :=
  ⟨dropBytes n cs, takeBytes_append_dropBytes n cs⟩

/-- What is cut down fits the size. -/
theorem byteLength_takeBytes_le (n : Nat) (cs : List Char) : byteLength (takeBytes n cs) ≤ n := by
  induction cs generalizing n with
  | nil => simp [takeBytes]
  | cons c cs ih =>
      rw [takeBytes]
      split
      · have hrest := ih (n - c.utf8Size)
        rw [byteLength_cons]
        omega
      · simp

/-- A start of a text that fits the size is a start of what is cut down. -/
theorem prefix_takeBytes {xs cs : List Char} {n : Nat} (hx : xs <+: cs)
    (h : byteLength xs ≤ n) : xs <+: takeBytes n cs := by
  induction cs generalizing xs n with
  | nil => simpa [takeBytes] using hx
  | cons c cs ih =>
      cases xs with
      | nil => exact List.nil_prefix
      | cons x xs =>
          obtain ⟨rfl, hxs⟩ := List.cons_prefix_cons.mp hx
          rw [byteLength_cons] at h
          rw [takeBytes, if_pos (by omega)]
          exact List.cons_prefix_cons.mpr ⟨rfl, ih hxs (by omega)⟩

/-- Cutting down at the end of a start gives that start. -/
theorem takeBytes_append (xs ys : List Char) : takeBytes (byteLength xs) (xs ++ ys) = xs := by
  have hcut := takeBytes_isPrefix (byteLength xs) (xs ++ ys)
  have hstart := prefix_takeBytes (List.prefix_append xs ys) (Nat.le_refl _)
  refine eq_of_byteLength_eq hcut (List.prefix_append xs ys) (Nat.le_antisymm ?_ ?_)
  · exact byteLength_takeBytes_le _ _
  · exact byteLength_le_of_isPrefix hstart

/-- Cutting down at the end of a start leaves what follows it. -/
theorem dropBytes_append (xs ys : List Char) : dropBytes (byteLength xs) (xs ++ ys) = ys := by
  have h := takeBytes_append_dropBytes (byteLength xs) (xs ++ ys)
  rw [takeBytes_append] at h
  exact List.append_cancel_left h

/-- Four bytes are enough for a character. -/
theorem takeBytes_ne_nil {cs : List Char} {n : Nat} (hn : 4 ≤ n) (hcs : cs ≠ []) :
    takeBytes n cs ≠ [] := by
  cases cs with
  | nil => exact absurd rfl hcs
  | cons c cs =>
      have hc := c.utf8Size_le_four
      rw [takeBytes, if_pos (by omega)]
      simp

/-- What is cut down of a longer text leaves no room for a character. -/
theorem lt_byteLength_takeBytes_add_four {cs : List Char} {n : Nat} (h : takeBytes n cs ≠ cs) :
    n < byteLength (takeBytes n cs) + 4 := by
  induction cs generalizing n with
  | nil => exact absurd rfl h
  | cons c cs ih =>
      have hc := c.utf8Size_le_four
      rw [takeBytes] at h ⊢
      split
      · rename_i hfits
        rw [if_pos hfits, Ne, List.cons.injEq, and_iff_right rfl] at h
        have hrest := ih h
        rw [byteLength_cons]
        omega
      · rw [byteLength_nil]
        omega

/-! ## Cutting up -/

/-- What is cut up reaches the size, if the text does. -/
theorem le_byteLength_takeBytesUp {n : Nat} {cs : List Char} (h : n ≤ byteLength cs) :
    n ≤ byteLength (takeBytesUp n cs) := by
  induction cs generalizing n with
  | nil =>
      simp only [byteLength_nil, Nat.le_zero_eq] at h
      omega
  | cons c cs ih =>
      cases n with
      | zero => simp
      | succ n =>
          rw [byteLength_cons] at h
          have hrest := ih (n := n + 1 - c.utf8Size) (by omega)
          rw [takeBytesUp, byteLength_cons]
          omega

/-- What is left behind a cut is an end of the text. -/
theorem dropBytesUp_isSuffix (n : Nat) (cs : List Char) : dropBytesUp n cs <:+ cs :=
  ⟨takeBytesUp n cs, takeBytesUp_append_dropBytesUp n cs⟩

/-- What is cut up is a start of every start that reaches the size. -/
theorem takeBytesUp_isPrefix_of_le {xs cs : List Char} {n : Nat} (hx : xs <+: cs)
    (h : n ≤ byteLength xs) : takeBytesUp n cs <+: xs := by
  induction cs generalizing xs n with
  | nil => simp [takeBytesUp]
  | cons c cs ih =>
      cases n with
      | zero => simp [takeBytesUp]
      | succ n =>
          cases xs with
          | nil => simp at h
          | cons x xs =>
              obtain ⟨rfl, hxs⟩ := List.cons_prefix_cons.mp hx
              rw [byteLength_cons] at h
              rw [takeBytesUp]
              exact List.cons_prefix_cons.mpr ⟨rfl, ih hxs (by omega)⟩

/-- Cutting up at the end of a start leaves what follows it. -/
theorem dropBytesUp_append (xs ys : List Char) : dropBytesUp (byteLength xs) (xs ++ ys) = ys := by
  have hcut := takeBytesUp_isPrefix_of_le (List.prefix_append xs ys) (Nat.le_refl _)
  have hreach : byteLength xs ≤ byteLength (takeBytesUp (byteLength xs) (xs ++ ys)) :=
    le_byteLength_takeBytesUp (by rw [byteLength_append]; omega)
  have hstart : takeBytesUp (byteLength xs) (xs ++ ys) = xs :=
    hcut.eq_of_length_le (prefix_of_byteLength_le (List.prefix_refl xs) hcut hreach).length_le
  have h := takeBytesUp_append_dropBytesUp (byteLength xs) (xs ++ ys)
  rw [hstart] at h
  exact List.append_cancel_left h

/-- The longest end of at most `n` bytes: what comes before it, and its size. -/
theorem exists_append_takeLastBytes (n : Nat) (cs : List Char) :
    ∃ front, front ++ takeLastBytes n cs = cs ∧ byteLength cs - n ≤ byteLength front ∧
      byteLength (takeLastBytes n cs) ≤ n := by
  refine ⟨takeBytesUp (byteLength cs - n) cs, takeBytesUp_append_dropBytesUp _ _, ?_, ?_⟩
  · exact le_byteLength_takeBytesUp (Nat.sub_le _ _)
  · have hfront := le_byteLength_takeBytesUp (Nat.sub_le (byteLength cs) n)
    have hsum := congrArg byteLength (takeBytesUp_append_dropBytesUp (byteLength cs - n) cs)
    rw [byteLength_append] at hsum
    rw [takeLastBytes]
    omega

/-! ## Boundaries and slices -/

/-- The end of a start of a text is a boundary. -/
theorem isBoundary_append (xs ys : List Char) : IsBoundary (xs ++ ys) (byteLength xs) :=
  ⟨xs, List.prefix_append xs ys, rfl⟩

/-- Both ends of a text are boundaries. -/
theorem isBoundary_zero (cs : List Char) : IsBoundary cs 0 := ⟨[], List.nil_prefix, rfl⟩

theorem isBoundary_byteLength (cs : List Char) : IsBoundary cs (byteLength cs) :=
  ⟨cs, List.prefix_refl cs, rfl⟩

/-- No boundary lies behind the end of the text. -/
theorem IsBoundary.le {cs : List Char} {n : Nat} (h : IsBoundary cs n) : n ≤ byteLength cs := by
  obtain ⟨start, hstart, rfl⟩ := h
  exact byteLength_le_of_isPrefix hstart

/-- A boundary behind a start of a text divides the rest of the text. -/
theorem IsBoundary.exists_split {xs ys : List Char} {n : Nat} (h : IsBoundary (xs ++ ys) n)
    (hn : byteLength xs ≤ n) : ∃ zs ws, ys = zs ++ ws ∧ n = byteLength xs + byteLength zs := by
  obtain ⟨start, hstart, rfl⟩ := h
  obtain ⟨zs, rfl⟩ := prefix_of_byteLength_le (List.prefix_append xs ys) hstart hn
  obtain ⟨ws, hws⟩ := hstart
  refine ⟨zs, ws, ?_, byteLength_append _ _⟩
  rw [List.append_assoc] at hws
  exact (List.append_cancel_left hws).symm

/-- The slice between two boundaries is what stands between them. -/
theorem slice_append (xs ys zs : List Char) :
    slice (xs ++ ys ++ zs) (byteLength xs) (byteLength xs + byteLength ys) = ys := by
  rw [slice, List.append_assoc, dropBytes_append, Nat.add_sub_cancel_left, takeBytes_append]

end Courseware.Text
