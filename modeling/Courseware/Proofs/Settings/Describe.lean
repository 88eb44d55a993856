import Courseware.Settings.Describe

/-! # What a description of settings tells about keys

Of two settings that are equal but for their keys (`Settings.keyless`), the descriptions are
compared from left to right. Up to the first key they are equal; a key writes one of two texts,
neither of which is a start of the other (`key_append_eq_iff`), and behind it the descriptions go on
alike.

* **A description tells which keys are given**, and nothing else about the keys: settings that are
  equal but for their keys are described alike exactly when the same keys are given
  (`describe_eq_iff_keysGiven_eq`).
-/

namespace Courseware

namespace Describe

/-! ## Items in a row -/

/-- **Items behind another one**, each after a comma. -/
def following : List String → String
  | [] => ""
  | item :: items => ", " ++ item ++ following items

/-- A row of items is the first one and those behind it. -/
theorem intercalate_cons (item : String) (items : List String) :
    ", ".intercalate (item :: items) = item ++ following items := by
  induction items generalizing item with
  | nil => rw [String.intercalate_singleton, following, String.append_empty]
  | cons next items ih =>
      rw [String.intercalate_cons_cons, ih, following]
      simp only [String.append_assoc]

/-- Items behind another one are a comma and then the row of them. -/
theorem following_cons (item : String) (items : List String) :
    following (item :: items) = ", " ++ ", ".intercalate (item :: items) := by
  rw [intercalate_cons, following, String.append_assoc]

/-- Items behind another one are those of the first part and then those of the second. -/
theorem following_append (items others : List String) :
    following (items ++ others) = following items ++ following others := by
  induction items with
  | nil => simp [following]
  | cons item items ih => simp only [List.cons_append, following, ih, String.append_assoc]

/-- A field as a record writes it. -/
def field (f : String × String) : String := f.1 ++ ": " ++ f.2

/-- A record is its first field and those behind it. -/
theorem record_cons (name : String) (first : String × String) (fields : List (String × String)) :
    record name (first :: fields) =
      name ++ " \x7b " ++ first.1 ++ ": "
        ++ (first.2 ++ (following (fields.map field) ++ " \x7d")) := by
  have hfields : (first :: fields).map (fun f => f.1 ++ ": " ++ f.2) =
      field first :: fields.map field := rfl
  rw [record, hfields, intercalate_cons, field]
  simp only [String.append_assoc]

/-! ## Keys -/

/-- A key writes one of two texts, which differ in their second character. -/
theorem toList_key (apiKey : Option String) :
    (key apiKey).toList =
      if apiKey.isSome then ['"', '[', 'R', 'E', 'D', 'A', 'C', 'T', 'E', 'D', ']', '"']
      else ['"', 'N', 'o', 'n', 'e', '"'] := by
  rw [key]
  cases apiKey.isSome <;> decide +kernel

/-- **A key before another text** tells whether it is there and where the text begins. -/
theorem key_append_eq_iff {a b : Option String} {x y : String} :
    key a ++ x = key b ++ y ↔ a.isSome = b.isSome ∧ x = y := by
  constructor
  · intro h
    have hsame : a.isSome = b.isSome := by
      have hchars := congrArg String.toList h
      rw [String.toList_append, String.toList_append, toList_key, toList_key] at hchars
      cases hsa : a.isSome <;> cases hsb : b.isSome <;> simp [hsa, hsb] at hchars ⊢
    have hkey : key a = key b := by rw [key, key, hsame]
    rw [hkey, String.append_right_inj] at h
    exact ⟨hsame, h⟩
  · rintro ⟨hsame, rfl⟩
    rw [key, key, hsame]

end Describe

open Describe

/-! ## Single providers -/

namespace ProviderSettings

/-- **Provider settings without the key.** -/
def keyless (p : ProviderSettings) : ProviderSettings := { p with apiKey := none }

/-- The fields of a description behind the key. -/
def plainFields (p : ProviderSettings) : List (String × String) :=
  [("api_url", option (p.apiUrl.map text)), ("default_model", option (p.defaultModel.map text)),
   ("timeout_secs", option (p.timeoutSeconds.map toString))]

/-- The other fields do not depend on the key. -/
theorem plainFields_eq {p q : ProviderSettings} (h : p.keyless = q.keyless) :
    p.plainFields = q.plainFields := by
  have hfields := congrArg plainFields h
  exact hfields

/-- **A description before another text** tells whether the provider has a key and where the text
begins, when the rest of what is set is known. -/
theorem describe_append_eq_iff {p q : ProviderSettings} {x y : String} (h : p.keyless = q.keyless) :
    p.describe ++ x = q.describe ++ y ↔ p.apiKey.isSome = q.apiKey.isSome ∧ x = y := by
  have hrecord : ∀ r : ProviderSettings,
      r.describe = record "ProviderConfig" (("api_key", key r.apiKey) :: r.plainFields) :=
    fun _ => rfl
  rw [hrecord, hrecord, record_cons, record_cons, plainFields_eq h]
  simp only [String.append_assoc, String.append_right_inj, key_append_eq_iff]

end ProviderSettings

/-- A provider with what is set for it, as a description writes it. -/
def Describe.entry (p : String × ProviderSettings) : String := text p.1 ++ ": " ++ p.2.describe

namespace Settings

/-- **Settings without keys.** -/
def keyless (s : Settings) : Settings :=
  { s with apiKey := none, providers := s.providers.map fun p => (p.1, p.2.keyless) }

/-- **Which keys are given**: the common one, and those of the single providers in their order. -/
def keysGiven (s : Settings) : Bool × List Bool :=
  (s.apiKey.isSome, s.providers.map fun p => p.2.apiKey.isSome)

section Entries

variable {ps qs : List (String × ProviderSettings)} {x y : String}

/-- **The providers behind another one** tell which of them have keys and where they end, when the
rest of what is set is known. -/
theorem following_append_eq_iff
    (h : ps.map (fun p => (p.1, p.2.keyless)) = qs.map (fun q => (q.1, q.2.keyless))) :
    following (ps.map entry) ++ x = following (qs.map entry) ++ y ↔
      ps.map (fun p => p.2.apiKey.isSome) = qs.map (fun q => q.2.apiKey.isSome) ∧ x = y := by
  induction ps generalizing qs with
  | nil =>
      cases qs with
      | nil => simp [following]
      | cons q qs => cases h
  | cons p ps ih =>
      cases qs with
      | nil => cases h
      | cons q qs =>
          simp only [List.map_cons, List.cons.injEq, Prod.mk.injEq] at h
          obtain ⟨⟨hname, hplain⟩, hrest⟩ := h
          simp only [List.map_cons, following, entry, hname, String.append_assoc,
            String.append_right_inj, List.cons.injEq]
          rw [ProviderSettings.describe_append_eq_iff hplain, ih hrest, and_assoc]

/-- The providers in a row tell the same. -/
theorem intercalate_append_eq_iff
    (h : ps.map (fun p => (p.1, p.2.keyless)) = qs.map (fun q => (q.1, q.2.keyless))) :
    ", ".intercalate (ps.map entry) ++ x = ", ".intercalate (qs.map entry) ++ y ↔
      ps.map (fun p => p.2.apiKey.isSome) = qs.map (fun q => q.2.apiKey.isSome) ∧ x = y := by
  rw [← following_append_eq_iff h]
  cases ps with
  | nil =>
      cases qs with
      | nil => rfl
      | cons q qs => cases h
  | cons p ps =>
      cases qs with
      | nil => cases h
      | cons q qs =>
          -- A comma before both rows makes them providers behind another one.
          simp only [List.map_cons, following_cons, String.append_assoc, String.append_right_inj]

end Entries

/-! ## All settings -/

/-- The fields of a description between the common key and the single providers. -/
def plainFields (s : Settings) : List (String × String) :=
  [("default_provider", text s.defaultProvider), ("default_model", text s.defaultModel),
   ("fallback_providers", list (s.fallbackProviders.map text)), ("bounding", s.limits.describe),
   ("scoring", s.scoring.describe), ("retry", s.retry.describe),
   ("generation", s.generation.describe),
   ("notifications", record "NotificationConfig" [("enabled", bool s.notifications)])]

/-- These fields do not depend on the keys. -/
theorem plainFields_eq {s t : Settings} (h : s.keyless = t.keyless) :
    s.plainFields = t.plainFields := by
  have hfields := congrArg plainFields h
  exact hfields

/-- **A description** is the common key, then what is neither a key nor set for a single provider,
and then the single providers. -/
theorem describe_eq (s : Settings) :
    s.describe = "AppConfig \x7b api_key: " ++ (key s.apiKey
      ++ (following (s.plainFields.map field) ++ ", providers: \x7b"
        ++ (", ".intercalate (s.providers.map entry) ++ "\x7d \x7d"))) := by
  have hrecord : s.describe = record "AppConfig" (("api_key", key s.apiKey) :: (s.plainFields ++
      [("providers", "\x7b" ++ ", ".intercalate (s.providers.map entry) ++ "\x7d")])) := rfl
  rw [hrecord, record_cons, List.map_append, following_append]
  simp only [List.map_cons, List.map_nil, following, field, String.append_assoc,
    String.append_empty]
  rfl

/-- **A description tells which keys are given and nothing else about them.** Of settings that are
equal but for their keys, with the single providers in the same order, the descriptions are equal
exactly when each key is there in both or missing in both. -/
theorem describe_eq_iff_keysGiven_eq {s t : Settings} (h : s.keyless = t.keyless) :
    s.describe = t.describe ↔ s.keysGiven = t.keysGiven := by
  have hproviders := congrArg Settings.providers h
  rw [describe_eq, describe_eq, plainFields_eq h, String.append_right_inj, key_append_eq_iff,
    String.append_right_inj, intercalate_append_eq_iff hproviders, keysGiven, keysGiven,
    Prod.mk.injEq]
  exact and_congr_right fun _ => and_iff_left rfl

/-- Two settings with a common key and the key of a provider, each of them another one; a key has a
quote in it, and a key is the name of a model. -/
theorem describe_eq_iff_keysGiven_eq_of_two :
    ({ apiKey := some "a\"b", providers := [("x", { apiKey := some "m", defaultModel := some "m" }),
        ("y", {})] } : Settings).keyless =
      ({ apiKey := some "", providers := [("x", { apiKey := some "k", defaultModel := some "m" }),
        ("y", {})] } : Settings).keyless ∧
    ({ apiKey := some "a\"b", providers := [("x", { apiKey := some "m", defaultModel := some "m" }),
        ("y", {})] } : Settings).describe =
      ({ apiKey := some "", providers := [("x", { apiKey := some "k", defaultModel := some "m" }),
        ("y", {})] } : Settings).describe :=
  ⟨rfl, (describe_eq_iff_keysGiven_eq rfl).mpr rfl⟩

end Settings

end Courseware
