import Mathlib.Data.List.Nodup
import Mathlib.Data.List.Perm.Basic
import Courseware.Sink.Memory

/-! # Tables over units and tasks

What is written to a slot of a table is found there, and all other slots stay (`get?_insert`,
`get?_erase`). Tables that start empty have every slot once (`Table.Distinct`). Then the values of a
unit do not depend on the order in which the entries are kept: collecting them in any order and
sorting them by task gives the values of the unit (`listing_eq_forUnit`). -/

namespace Courseware

/-- **The place of a task** in the order of all tasks. -/
def Task.place (task : Task) : Nat := Task.all.idxOf task

/-- Every task is in the list of all tasks. -/
theorem Task.mem_all (task : Task) : task ∈ Task.all := by
  cases task <;> decide

/-- The tasks stand in the order of their places. -/
theorem Task.pairwise_all : Task.all.Pairwise fun a b => a.place < b.place := by
  decide

/-- Tasks at the same place are the same. -/
theorem Task.place_inj {a b : Task} : a.place = b.place ↔ a = b := List.idxOf_inj (mem_all a)

namespace Table

variable {α : Type}

/-! ## Reading what was written -/

/-- The empty table has no values. -/
@[simp] theorem get?_empty (slot : Slot) : (empty : Table α).get? slot = none := rfl

/-- Among entries, those of a slot that is filtered out are not found. -/
theorem find?_filter_ne (entries : List (Slot × α)) (slot other : Slot) :
    (entries.filter fun entry => entry.1 != slot).find? (fun entry => entry.1 == other) =
      if other = slot then none else entries.find? fun entry => entry.1 == other := by
  induction entries with
  | nil => simp
  | cons entry rest ih =>
      by_cases hslot : entry.1 = slot
      · rw [List.filter_cons_of_neg (by simp [hslot]), ih, List.find?_cons, hslot]
        by_cases hother : other = slot
        · rw [if_pos hother, if_pos hother]
        · rw [if_neg hother, if_neg hother, beq_false_of_ne (Ne.symm hother)]
      · rw [List.filter_cons_of_pos (by simp [hslot]), List.find?_cons, List.find?_cons, ih]
        by_cases hother : other = slot
        · rw [if_pos hother, if_pos hother, hother, beq_false_of_ne hslot]
        · rw [if_neg hother, if_neg hother]

/-- **Erasing a slot** empties it and leaves the others. -/
theorem get?_erase (table : Table α) (slot other : Slot) :
    (table.erase slot).get? other = if other = slot then none else table.get? other := by
  rw [get?, erase, find?_filter_ne]
  by_cases h : other = slot
  · rw [if_pos h, if_pos h, Option.map_none]
  · rw [if_neg h, if_neg h, get?]

/-- **Writing to a slot** replaces its value and leaves the others. -/
theorem get?_insert (table : Table α) (slot other : Slot) (value : α) :
    (table.insert slot value).get? other = if other = slot then some value else table.get? other := by
  rw [get?, insert, List.find?_cons]
  by_cases h : other = slot
  · rw [if_pos h, h, beq_self_eq_true]
    rfl
  · rw [if_neg h, beq_false_of_ne (Ne.symm h)]
    have herase := get?_erase table slot other
    rwa [if_neg h, get?] at herase

/-! ## Every slot once -/

/-- **A table in which every slot occurs once.** -/
def Distinct (table : Table α) : Prop := (table.entries.map (·.1)).Nodup

/-- The empty table has every slot once. -/
theorem distinct_empty : (empty : Table α).Distinct := List.nodup_nil

/-- Erasing a slot keeps the others apart. -/
theorem Distinct.erase {table : Table α} (h : table.Distinct) (slot : Slot) :
    (table.erase slot).Distinct :=
  h.sublist (List.filter_sublist.map _)

/-- Writing to a slot keeps the slots apart. -/
theorem Distinct.insert {table : Table α} (h : table.Distinct) (slot : Slot) (value : α) :
    (table.insert slot value).Distinct := by
  refine List.nodup_cons.mpr ⟨?_, h.erase slot⟩
  intro hmem
  obtain ⟨entry, hentry, hslot⟩ := List.mem_map.mp hmem
  have hne := (List.mem_filter.mp hentry).2
  rw [hslot, bne_self_eq_false] at hne
  cases hne

/-- **The value in a slot** is that of its one entry. -/
theorem Distinct.get?_eq_some_iff {table : Table α} (h : table.Distinct) {slot : Slot} {value : α} :
    table.get? slot = some value ↔ (slot, value) ∈ table.entries := by
  rw [get?, Option.map_eq_some_iff]
  constructor
  · rintro ⟨⟨other, found⟩, hfind, rfl⟩
    obtain rfl : other = slot := by simpa using List.find?_some hfind
    exact List.mem_of_find?_eq_some hfind
  · intro hmem
    cases hfind : table.entries.find? fun entry => entry.1 == slot with
    | none => exact absurd (List.find?_eq_none.mp hfind _ hmem) (by simp)
    | some entry =>
        have hslot : entry.1 = slot := by simpa using List.find?_some hfind
        -- Two entries of one slot are the same entry, since no slot occurs twice.
        have hsame := List.inj_on_of_nodup_map h (List.mem_of_find?_eq_some hfind) hmem hslot
        exact ⟨entry, rfl, congrArg Prod.snd hsame⟩

/-! ## The values of a unit -/

/-- The values of a unit are those in its slots. -/
theorem mem_forUnit {table : Table α} {unit : String} {task : Task} {value : α} :
    (task, value) ∈ table.forUnit unit ↔ table.get? (unit, task) = some value := by
  rw [forUnit, List.mem_filterMap]
  constructor
  · rintro ⟨_, -, h⟩
    obtain ⟨_, hget, hpair⟩ := Option.map_eq_some_iff.mp h
    cases hpair
    exact hget
  · intro hget
    refine ⟨task, task.mem_all, ?_⟩
    rw [hget, Option.map_some]

/-- The values of a unit are those for the known tasks when there is none for the unknown one. -/
theorem forUnit_eq_known {table : Table α} {unit : String}
    (h : table.get? (unit, .unknown) = none) :
    table.forUnit unit =
      Task.known.filterMap fun task => (table.get? (unit, task)).map (task, ·) := by
  rw [forUnit, Task.all, List.filterMap_append, List.filterMap_cons_none (by rw [h, Option.map_none]),
    List.filterMap_nil, List.append_nil]

/-- The values of a unit stand in the order of the tasks. -/
theorem pairwise_forUnit (table : Table α) (unit : String) :
    (table.forUnit unit).Pairwise fun a b => a.1.place < b.1.place := by
  rw [forUnit, List.pairwise_filterMap]
  refine Task.pairwise_all.imp fun {a b} hlt => ?_
  intro x hx y hy
  obtain ⟨_, -, rfl⟩ := Option.map_eq_some_iff.mp hx
  obtain ⟨_, -, rfl⟩ := Option.map_eq_some_iff.mp hy
  exact hlt

/-- **The values of a unit, collected from entries** in the order in which these are kept, and then
sorted by task. -/
def listing (entries : List (Slot × α)) (unit : String) : List (Task × α) :=
  ((entries.filter fun entry => entry.1.1 == unit).map fun entry =>
    (entry.1.2, entry.2)).mergeSort fun a b => a.1.place ≤ b.1.place

/-- The entries of a unit are in its listing. -/
theorem mem_listing {entries : List (Slot × α)} {unit : String} {task : Task} {value : α} :
    (task, value) ∈ listing entries unit ↔ ((unit, task), value) ∈ entries := by
  rw [listing, List.mem_mergeSort, List.mem_map]
  constructor
  · rintro ⟨⟨⟨other, _⟩, _⟩, hmem, hpair⟩
    obtain ⟨hentry, hunit⟩ := List.mem_filter.mp hmem
    obtain rfl : other = unit := by simpa using hunit
    cases hpair
    exact hentry
  · intro hmem
    exact ⟨_, List.mem_filter.mpr ⟨hmem, beq_self_eq_true unit⟩, rfl⟩

/-- **The order in which entries are kept does not matter** for the values of a unit. -/
theorem listing_eq_forUnit {table : Table α} (h : table.Distinct) {entries : List (Slot × α)}
    (hperm : entries.Perm table.entries) (unit : String) :
    listing entries unit = table.forUnit unit := by
  have hmem : ∀ entry, entry ∈ listing entries unit ↔ entry ∈ table.forUnit unit := by
    rintro ⟨task, value⟩
    rw [mem_listing, mem_forUnit, h.get?_eq_some_iff, hperm.mem_iff]
  have hforUnit := table.pairwise_forUnit unit
  have hnodup : (listing entries unit).Nodup := by
    have hentries : entries.Nodup := ((hperm.map _).nodup_iff.mpr h).of_map
    refine ((List.mergeSort_perm _ _).nodup_iff).mpr ?_
    refine (hentries.filter _).map_on ?_
    rintro ⟨⟨a, s⟩, v⟩ hx ⟨⟨b, t⟩, w⟩ hy hpair
    have ha : a = unit := by simpa using (List.mem_filter.mp hx).2
    have hb : b = unit := by simpa using (List.mem_filter.mp hy).2
    cases hpair
    rw [ha, hb]
  have hall : (listing entries unit).Perm (table.forUnit unit) :=
    (List.perm_ext_iff_of_nodup hnodup (hforUnit.imp fun hlt heq => by simp [heq] at hlt)).mpr hmem
  have hsorted : (listing entries unit).Pairwise fun a b => a.1.place ≤ b.1.place := by
    have htrans (a b c : Task × α) (hab : decide (a.1.place ≤ b.1.place) = true)
        (hbc : decide (b.1.place ≤ c.1.place) = true) : decide (a.1.place ≤ c.1.place) = true :=
      decide_eq_true (Nat.le_trans (of_decide_eq_true hab) (of_decide_eq_true hbc))
    have htotal (a b : Task × α) :
        (decide (a.1.place ≤ b.1.place) || decide (b.1.place ≤ a.1.place)) = true := by
      simpa using Nat.le_total a.1.place b.1.place
    exact (List.pairwise_mergeSort htrans htotal _).imp of_decide_eq_true
  refine hall.eq_of_pairwise ?_ hsorted (hforUnit.imp fun hlt => Nat.le_of_lt hlt)
  rintro ⟨s, v⟩ ⟨t, w⟩ hs ht hle hge
  -- Two values of one task are both found in its slot.
  obtain rfl := Task.place_inj.mp (Nat.le_antisymm hle hge)
  have hv := mem_forUnit.mp ((hmem _).mp hs)
  have hw := mem_forUnit.mp ht
  rw [hv, Option.some.injEq] at hw
  rw [hw]

end Table

end Courseware
