import Courseware.Json.Value
import Courseware.Proofs.Lookup

/-! # Members by name

A member of an object is found by its name as an entry is (`find?_eq_lookup`). Members that are put
in order are found by the last one of each name, and so are the members of a canonical object
(`find?_canonical`). -/

namespace Courseware.Json

/-! ## Finding members -/

/-- A member is found as an entry is. -/
theorem find?_eq_lookup (name : String) (members : List (String × Json)) :
    find? name members = members.lookup name := by
  induction members with
  | nil => rfl
  | cons first rest ih =>
      obtain ⟨held, json⟩ := first
      rw [find?, List.lookup_cons]
      by_cases hname : held = name
      · rw [if_pos hname, hname, BEq.rfl]
      · rw [if_neg hname, ih, beq_eq_false_iff_ne.mpr (Ne.symm hname)]

/-- **Every member of a name that occurs once is found.** -/
theorem find?_eq_some_iff_mem {name : String} {json : Json} {members : List (String × Json)}
    (h : (members.map (·.1)).Nodup) : find? name members = some json ↔ (name, json) ∈ members := by
  rw [find?_eq_lookup, lookup_eq_some_iff_mem h]

/-- Members are found in front of those that follow. -/
theorem find?_append (name : String) (members others : List (String × Json)) :
    find? name (members ++ others) = (find? name members).or (find? name others) := by
  rw [find?_eq_lookup, find?_eq_lookup, find?_eq_lookup, List.lookup_append]

/-- A new member is found under its name, and all others as before. -/
theorem find?_append_cons {name : String} {before after : List (String × Json)}
    (h : find? name (before ++ after) = none) (json : Json) (other : String) :
    find? other (before ++ (name, json) :: after) =
      if other = name then some json else find? other (before ++ after) := by
  rw [find?_append, Option.or_eq_none_iff] at h
  rw [find?_append, find?_append, find?]
  by_cases hother : other = name
  · rw [if_pos hother, if_pos hother.symm, hother, h.1, Option.none_or]
  · rw [if_neg hother, if_neg (Ne.symm hother)]

/-! ## Members in order -/

/-- A member that is inserted replaces the one of its name. -/
theorem find?_insert (name other : String) (json : Json) (members : List (String × Json)) :
    find? name (insert other json members) =
      if other = name then some json else find? name members := by
  induction members with
  | nil => rfl
  | cons first rest ih =>
      obtain ⟨held, old⟩ := first
      rw [insert]
      by_cases hlt : other < held
      · rw [if_pos hlt, find?]
      · rw [if_neg hlt]
        by_cases heq : other = held
        · rw [if_pos heq, find?, find?, heq]
          by_cases hname : held = name
          · rw [if_pos hname, if_pos hname]
          · rw [if_neg hname, if_neg hname, if_neg hname]
        · rw [if_neg heq, find?, find?, ih]
          by_cases hname : held = name
          · rw [if_pos hname, if_pos hname, if_neg (hname ▸ heq)]
          · rw [if_neg hname, if_neg hname]

/-- The last member of a name is the one that is found in order. -/
theorem find?_ordered (name : String) (members : List (String × Json)) :
    find? name (ordered members) = find? name members.reverse := by
  have hfold : ∀ done, find? name
      (members.foldl (fun done member => insert member.1 member.2 done) done) =
        (find? name members.reverse).or (find? name done) := by
    induction members with
    | nil => exact fun _ => rfl
    | cons first rest ih =>
        intro done
        rw [List.foldl_cons, ih, find?_insert, List.reverse_cons, find?_append, Option.or_assoc,
          find?]
        by_cases hname : first.1 = name
        · rw [if_pos hname, if_pos hname, Option.some_or]
        · rw [if_neg hname, if_neg hname]
          rfl
  rw [ordered, hfold]
  exact Option.or_none

/-! ## Members of canonical objects -/

/-- The items of a canonical array are canonical. -/
theorem canonicalItems_eq_map (items : List Json) : canonicalItems items = items.map canonical := by
  induction items with
  | nil => rfl
  | cons item rest ih => rw [canonicalItems, ih, List.map_cons]

/-- The members of a canonical object have canonical values. -/
theorem canonicalMembers_eq_map (members : List (String × Json)) :
    canonicalMembers members = members.map fun member => (member.1, member.2.canonical) := by
  induction members with
  | nil => rfl
  | cons first rest ih =>
      obtain ⟨name, json⟩ := first
      rw [canonicalMembers, ih, List.map_cons]

/-- Members with canonical values are found as before. -/
theorem find?_map_canonical (name : String) (members : List (String × Json)) :
    find? name (members.map fun member => (member.1, member.2.canonical)) =
      (find? name members).map canonical := by
  induction members with
  | nil => rfl
  | cons first rest ih =>
      rw [List.map_cons, find?, find?]
      by_cases hname : first.1 = name
      · rw [if_pos hname, if_pos hname, Option.map_some]
      · rw [if_neg hname, if_neg hname, ih]

/-- **What is found in a canonical object**: the last member of a name, in canonical form. -/
theorem find?_canonical (name : String) (members : List (String × Json)) :
    find? name (ordered (canonicalMembers members)) =
      (find? name members.reverse).map canonical := by
  rw [find?_ordered, canonicalMembers_eq_map, ← List.map_reverse, find?_map_canonical]

end Courseware.Json
