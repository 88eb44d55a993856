import Mathlib.Data.List.Nodup
import Mathlib.Data.List.Perm.Basic

/-! # Entries by name

What is found for a name among entries is the first entry with it. When there is one entry for each
name, everything that is there is found (`lookup_eq_some_iff_mem`), so the order of the entries does
not matter (`lookup_eq_of_perm`). -/

namespace Courseware

variable {α : Type} {entries others : List (String × α)} {name : String} {a : α}

/-- What is found for a name is an entry with it. -/
theorem mem_of_lookup_eq_some (hfound : entries.lookup name = some a) : (name, a) ∈ entries := by
  obtain ⟨before, rest, rfl, -⟩ := List.lookup_eq_some_iff.mp hfound
  exact List.mem_append_right before List.mem_cons_self

/-- In entries with one for each name, every entry is found for its name. -/
theorem lookup_eq_some_iff_mem (hkeys : (entries.map (·.1)).Nodup) :
    entries.lookup name = some a ↔ (name, a) ∈ entries := by
  constructor
  · exact mem_of_lookup_eq_some
  · intro hmem
    obtain ⟨before, rest, rfl⟩ := List.append_of_mem hmem
    rw [List.map_append, List.map_cons, List.nodup_append] at hkeys
    -- An entry of the same name before it would be one too many.
    refine List.lookup_eq_some_iff.mpr ⟨before, rest, rfl, fun entry hentry => ?_⟩
    exact bne_iff_ne.mpr
      (hkeys.2.2 entry.1 (List.mem_map_of_mem hentry) name List.mem_cons_self).symm

/-- **The order of entries with one for each name does not matter** for what is found. -/
theorem lookup_eq_of_perm (hperm : others.Perm entries) (hkeys : (entries.map (·.1)).Nodup) :
    others.lookup name = entries.lookup name := by
  apply Option.ext
  intro a
  rw [lookup_eq_some_iff_mem hkeys,
    lookup_eq_some_iff_mem ((hperm.map (·.1)).nodup_iff.mpr hkeys), hperm.mem_iff]

/-- Something is found for the names that there are. -/
theorem isSome_lookup_iff : (entries.lookup name).isSome = true ↔ name ∈ entries.map (·.1) := by
  rw [List.lookup_isSome_iff, List.mem_map]
  constructor
  · rintro ⟨entry, hentry, heq⟩
    exact ⟨entry, hentry, (beq_iff_eq.mp heq).symm⟩
  · rintro ⟨entry, hentry, rfl⟩
    exact ⟨entry, hentry, BEq.rfl⟩

end Courseware
