import Mathlib.Data.List.Perm.Basic
import Courseware.Proofs.Sink.Table
import Courseware.Proofs.Sink.Recorded

/-! # What calls change in memory

A call to sinks that remember changes at most one slot of the material and one of the marks, both of
the unit that it names (`Sinks.Call.resultEdit`, `Sinks.Call.failureEdit`). Such an **edit** does not
depend on what the other slots hold, so edits for two units may be made in either order
(`Table.same_edit_comm`). Tables are compared by their contents (`Table.Same`), since the order of the
entries tells which slot was written last. -/

namespace Courseware

namespace Table

variable {α : Type}

/-! ## Tables with the same contents -/

/-- **Tables with the same contents**: the same entries in some order, and the same value in every
slot. -/
structure Same (table other : Table α) : Prop where
  /-- They have the same entries. -/
  perm : table.entries.Perm other.entries
  /-- They have the same values. -/
  get?_eq : ∀ slot, table.get? slot = other.get? slot

/-- A table has its own contents. -/
theorem Same.refl (table : Table α) : table.Same table := ⟨.refl _, fun _ => rfl⟩

/-- Having the same contents goes both ways. -/
theorem Same.symm {table other : Table α} (h : table.Same other) : other.Same table :=
  ⟨h.perm.symm, fun slot => (h.get?_eq slot).symm⟩

/-- Tables with the contents of a third one have the same contents. -/
theorem Same.trans {table mid other : Table α} (h : table.Same mid) (h' : mid.Same other) :
    table.Same other :=
  ⟨h.perm.trans h'.perm, fun slot => (h.get?_eq slot).trans (h'.get?_eq slot)⟩

/-! ## Edits -/

/-- **An edit of a table.** -/
inductive Edit (α : Type) where
  /-- Nothing is changed. -/
  | keep
  /-- A slot is filled, or emptied when there is no value. -/
  | set (slot : Slot) (value : Option α)

/-- The table after an edit. -/
def edit (table : Table α) : Edit α → Table α
  | .keep => table
  | .set slot (some value) => table.insert slot value
  | .set slot none => table.erase slot

/-- **An edit for a unit** leaves the slots of all other units. -/
def Edit.For (unit : String) : Edit α → Prop
  | .keep => True
  | .set slot _ => slot.1 = unit

/-- The entries of a table after a slot was filled or emptied: those of the other slots, behind the
new one. -/
theorem entries_edit_set (table : Table α) (slot : Slot) (value : Option α) :
    (table.edit (.set slot value)).entries =
      (value.map (slot, ·)).toList ++ table.entries.filter fun entry => entry.1 != slot := by
  cases value with
  | none => rfl
  | some value => rfl

/-- The values of a table after a slot was filled or emptied. -/
theorem get?_edit_set (table : Table α) (slot other : Slot) (value : Option α) :
    (table.edit (.set slot value)).get? other = if other = slot then value else table.get? other := by
  cases value with
  | none => exact table.get?_erase slot other
  | some value => exact table.get?_insert slot other value

/-- An edit changes the same in tables with the same contents. -/
theorem Same.edit {table other : Table α} (h : table.Same other) (edit : Edit α) :
    (table.edit edit).Same (other.edit edit) := by
  cases edit with
  | keep => exact h
  | set slot value =>
      refine ⟨?_, fun found => ?_⟩
      · rw [entries_edit_set, entries_edit_set]
        exact (h.perm.filter _).append_left _
      · rw [get?_edit_set, get?_edit_set, h.get?_eq]

/-- A new entry of another slot is left when a slot is written. -/
theorem filter_toList_of_ne {slot other : Slot} (h : slot ≠ other) (value : Option α) :
    ((value.map (slot, ·)).toList.filter fun entry => entry.1 != other) =
      (value.map (slot, ·)).toList := by
  cases value with
  | none => rfl
  | some value => simp [h]

/-- **Edits of two slots** may be made in either order. -/
theorem same_edit_set_comm (table : Table α) {slot other : Slot} (h : slot ≠ other)
    (value value' : Option α) :
    ((table.edit (.set slot value)).edit (.set other value')).Same
      ((table.edit (.set other value')).edit (.set slot value)) := by
  refine ⟨?_, fun found => ?_⟩
  · -- Both entries stand in front of those of the slots that are not written.
    simp only [entries_edit_set, List.filter_append, filter_toList_of_ne h,
      filter_toList_of_ne h.symm, List.filter_filter, Bool.and_comm]
    rw [← List.append_assoc, ← List.append_assoc]
    exact List.perm_append_comm.append_right _
  · simp only [get?_edit_set]
    by_cases hother : found = other
    · rw [if_pos hother, if_pos hother, if_neg (hother ▸ h.symm)]
    · rw [if_neg hother, if_neg hother]

/-- **Edits for two units** may be made in either order. -/
theorem same_edit_comm (table : Table α) {unit unit' : String} (h : unit ≠ unit')
    {edit edit' : Edit α} (hedit : edit.For unit) (hedit' : edit'.For unit') :
    ((table.edit edit).edit edit').Same ((table.edit edit').edit edit) := by
  cases edit with
  | keep => exact .refl _
  | set slot value =>
      cases edit' with
      | keep => exact .refl _
      | set slot' value' =>
          refine table.same_edit_set_comm ?_ value value'
          rintro rfl
          exact h (hedit.symm.trans hedit')

end Table

/-! ## Edits by calls -/

namespace Sinks.Call

open Text

/-- What a call changes in the material. -/
def resultEdit : Call → Table.Edit Material
  | .store unit task material => .set (unit, task) (some material)
  | .record .. | .clear .. | .notify .. => .keep

/-- What a call changes in the marks. -/
def failureEdit : Call → Table.Edit String
  | .record unit task message =>
    if blank unit then .keep else .set (unit, task) (some (trimmed message))
  | .clear unit task => .set (unit, task) none
  | .store .. | .notify .. => .keep

/-- **A call for a unit**: it names that unit, or it is an alert. -/
def For (unit : String) : Call → Prop
  | .store named _ _ | .record named _ _ | .clear named _ => named = unit
  | .notify .. => True

variable {unit : String} {call : Call}

/-- A call for a unit edits the material of that unit. -/
theorem For.resultEdit (h : call.For unit) : call.resultEdit.For unit := by
  cases call with
  | store named task material => exact h
  | record named task message => trivial
  | clear named task => trivial
  | notify subject message => trivial

/-- A call for a unit edits the marks of that unit. -/
theorem For.failureEdit (h : call.For unit) : call.failureEdit.For unit := by
  cases call with
  | store named task material => trivial
  | record named task message =>
      rw [Call.failureEdit]
      split
      · trivial
      · exact h
  | clear named task => exact h
  | notify subject message => trivial

end Sinks.Call

end Courseware
