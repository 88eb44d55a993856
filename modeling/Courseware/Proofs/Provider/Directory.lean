import Mathlib.Data.List.DropRight
import Courseware.Proofs.Lookup
import Courseware.Provider.Directory

/-! # The directory that settings describe

A directory is filled in one pass over the names that settings mention. The settings of single
providers have no order of their own, so the pass may take them in any. It has one invariant
(`Directory.Holds`), kept by each name (`Holds.mention`), which fixes the directory but for the
order in which its spans are kept. So every order gives the same directory, with a provider for
every name that is mentioned, and what a run asks is the row of providers that is shown for it
(`ofSettings_serves`). -/

namespace Courseware

/-! ## Addresses without slashes at their end -/

namespace Endpoint

variable {s : String}

/-- The characters that are left are those before the slashes at the end. -/
theorem toList_trimSlashes : (trimSlashes s).toList = s.toList.rdropWhile (· == '/') :=
  String.toList_ofList

/-- What is taken off the end of a text are slashes. -/
theorem exists_toList_eq_trimSlashes_append (s : String) :
    ∃ n, s.toList = (trimSlashes s).toList ++ List.replicate n '/' := by
  have hslashes : ∀ c ∈ s.toList.rtakeWhile (· == '/'), c = '/' := fun _ hc =>
    beq_iff_eq.mp (List.mem_rtakeWhile_imp (p := (· == '/')) hc)
  refine ⟨(s.toList.rtakeWhile (· == '/')).length, ?_⟩
  rw [toList_trimSlashes, ← List.eq_replicate_of_mem hslashes, List.rdropWhile_append_rtakeWhile]

/-- A text without slashes at its end does not end with one. -/
theorem getLast?_trimSlashes_ne : (trimSlashes s).toList.getLast? ≠ some '/' := by
  intro hlast
  rw [toList_trimSlashes] at hlast
  obtain ⟨hne, hslash⟩ := List.mem_getLast?_eq_getLast hlast
  apply List.rdropWhile_last_not (· == '/') s.toList hne
  rw [← hslash]
  rfl

end Endpoint

/-! ## Entries in order -/

section Entries

variable {α : Type} {entries : List (String × α)} {name other : String} {a : α}

namespace Directory

/-- One more entry has one more name. -/
theorem mem_names_insert :
    other ∈ (insert name a entries).map (·.1) ↔ other = name ∨ other ∈ entries.map (·.1) := by
  induction entries with
  | nil => rw [insert, List.map_cons, List.mem_cons]
  | cons entry rest ih =>
      rw [insert]
      split
      · rw [List.map_cons, List.mem_cons]
      · split
        · next heq =>
            subst heq
            rw [List.map_cons, List.map_cons, List.mem_cons]
            exact or_self_left.symm
        · rw [List.map_cons, List.map_cons, List.mem_cons, List.mem_cons, ih, or_left_comm]

/-- What holds of the entries and of one more holds when it is among them. -/
theorem forall_mem_insert {p : String × α → Prop} (ha : p (name, a))
    (hentries : ∀ entry ∈ entries, p entry) : ∀ entry ∈ insert name a entries, p entry := by
  induction entries with
  | nil => exact List.forall_mem_singleton.mpr ha
  | cons entry rest ih =>
      obtain ⟨hentry, hrest⟩ := List.forall_mem_cons.mp hentries
      rw [insert]
      split
      · exact List.forall_mem_cons.mpr ⟨ha, hentries⟩
      · split
        · exact List.forall_mem_cons.mpr ⟨ha, hrest⟩
        · exact List.forall_mem_cons.mpr ⟨hentry, ih hrest⟩

/-- **One more entry leaves them in ascending order.** -/
theorem pairwise_insert (h : (entries.map (·.1)).Pairwise (· < ·)) :
    ((insert name a entries).map (·.1)).Pairwise (· < ·) := by
  induction entries with
  | nil => exact List.pairwise_singleton _ _
  | cons entry rest ih =>
      obtain ⟨hentry, hrest⟩ := List.pairwise_cons.mp h
      rw [insert]
      split
      · next hlt =>
          refine List.pairwise_cons.mpr ⟨fun other hother => ?_, h⟩
          cases hother with
          | head => exact hlt
          | tail _ hother => exact String.lt_trans hlt (hentry other hother)
      · split
        · next heq =>
            subst heq
            exact List.pairwise_cons.mpr ⟨hentry, hrest⟩
        · next hlt hne =>
            refine List.pairwise_cons.mpr ⟨fun other hother => ?_, ih hrest⟩
            -- The name is behind the first one, since it is neither before it nor the same.
            rcases mem_names_insert.mp hother with rfl | hother
            · exact String.not_le.mp fun hle => hne (String.le_antisymm hle (String.not_lt.mp hlt))
            · exact hentry other hother

end Directory

end Entries

/-! ## Rows of providers -/

namespace Directory

section Row

variable {α : Type} {d : Directory α} {first : α}

/-- **What a run asks is the row that is shown**, or its first provider when there are no names to
fall back to. -/
theorem primary?_eq (hfirst : d.default? = some first) :
    d.primary? = some (if d.fallbacks = [] then .single first else .chain d.chain) := by
  -- The row does not leave out the default name, which has a provider.
  have hmember : d.member? d.default = some (first, d.timeoutFor d.default) := by
    rw [member?, ← default?, hfirst, Option.map_some]
  rw [primary?, hfirst, Option.map_some, chain, List.filterMap_cons_some hmember]
  simp only [List.isEmpty_iff]

/-- When all names of a row have a provider, none of them is left out of it. -/
theorem chain_eq_map {f : String → α × Nat}
    (h : ∀ name ∈ d.default :: d.fallbacks, d.member? name = some (f name)) :
    d.chain = (d.default :: d.fallbacks).map f := by
  rw [chain, List.filterMap_congr h]
  exact congrFun List.filterMap_eq_map _

/-- **Directories that differ only in the order** in which their spans are kept. -/
structure Same (d d' : Directory α) : Prop where
  /-- The providers are the same. -/
  entries : d.entries = d'.entries
  /-- The default provider is the same. -/
  default : d.default = d'.default
  /-- The names to fall back to are the same, in the same order. -/
  fallbacks : d.fallbacks = d'.fallbacks
  /-- The spans are the same. -/
  timeouts : ∀ name, d.timeouts.lookup name = d'.timeouts.lookup name

end Row

/-! ## The pass over the names -/

/-- None of the names in ascending order is there twice. -/
theorem nodup_of_pairwise {names : List String} (h : names.Pairwise (· < ·)) : names.Nodup := by
  apply h.imp
  intro name other hlt heq
  rw [heq] at hlt
  exact String.lt_irrefl other hlt

/-- **What holds of a directory while names are mentioned**: it has the endpoints of those seen so
far, each with its span. -/
structure Holds (s : Settings) (seen : List String) (d : Directory Endpoint) : Prop where
  /-- The default provider is the one that is set. -/
  default : d.default = s.defaultProvider
  /-- The names to fall back to are those that are set. -/
  fallbacks : d.fallbacks = s.fallbackProviders
  /-- The names are in ascending order. -/
  sorted : d.names.Pairwise (· < ·)
  /-- The names are those seen. -/
  mem_names : ∀ name, name ∈ d.names ↔ name ∈ seen
  /-- The providers are the endpoints that are set. -/
  entries : ∀ entry ∈ d.entries, entry.2 = endpointOf s entry.1
  /-- The spans are those of the endpoints. -/
  timeouts : ∀ name, d.timeouts.lookup name =
    if name ∈ seen then some (endpointOf s name).timeout else none

namespace Holds

variable {s s' : Settings} {seen seen' : List String} {d d' : Directory Endpoint} {name : String}

/-- It holds of a directory without providers when no name has been seen. -/
theorem empty : Holds s [] (Directory.empty s.defaultProvider s.fallbackProviders) where
  default := rfl
  fallbacks := rfl
  sorted := .nil
  mem_names _ := Iff.rfl
  entries _ h := absurd h List.not_mem_nil
  timeouts _ := rfl

/-- **Mentioning a name keeps it**, with the name seen as well. -/
theorem mention (h : Holds s seen d) (name : String) :
    Holds s (seen ++ [name]) (Directory.mention s d name) := by
  rw [Directory.mention]
  split
  · -- A name with a provider has been seen before.
    next hknown =>
      have hseen : name ∈ seen := (h.mem_names name).mp (isSome_lookup_iff.mp hknown)
      have hmem : ∀ other, other ∈ seen ++ [name] ↔ other ∈ seen := by
        intro other
        rw [List.mem_append, List.mem_singleton]
        exact or_iff_left_of_imp fun heq => heq ▸ hseen
      refine ⟨h.default, h.fallbacks, h.sorted, fun other => ?_, h.entries, fun other => ?_⟩
      · rw [hmem, h.mem_names]
      · simp only [hmem, h.timeouts]
  · -- A new name is put in its place, and its span in front of all others.
    refine ⟨h.default, h.fallbacks, pairwise_insert h.sorted, fun other => ?_,
      forall_mem_insert rfl h.entries, fun other => ?_⟩
    · show other ∈ (insert name (endpointOf s name) d.entries).map (·.1) ↔ _
      rw [mem_names_insert, ← names, h.mem_names, List.mem_append, List.mem_singleton, or_comm]
    · rw [List.lookup_cons, h.timeouts]
      by_cases heq : other = name
      · subst heq
        simp
      · simp [heq, beq_eq_false_iff_ne.mpr heq]

/-- **Mentioning names one after another keeps it.** -/
theorem foldl_mention (h : Holds s seen d) (names : List String) :
    Holds s (seen ++ names) (names.foldl (Directory.mention s) d) := by
  induction names generalizing seen d with
  | nil => rwa [List.append_nil]
  | cons name names ih =>
      rw [List.foldl_cons, List.append_cons]
      exact ih (h.mention name)

/-- It holds of the directory of settings when all names that they mention have been seen. -/
theorem ofSettings (s : Settings) : Holds s (mentioned s) (Directory.ofSettings s) :=
  empty.foldl_mention (mentioned s)

/-- The provider of a name that has been seen is its endpoint. -/
theorem get?_eq (h : Holds s seen d) (hname : name ∈ seen) :
    d.get? name = some (endpointOf s name) := by
  obtain ⟨endpoint, hfound⟩ :=
    Option.isSome_iff_exists.mp (isSome_lookup_iff.mpr ((h.mem_names name).mpr hname))
  have hendpoint : endpoint = endpointOf s name := h.entries _ (mem_of_lookup_eq_some hfound)
  rw [get?, hfound, hendpoint]

/-- The span of a name that has been seen is that of its endpoint. -/
theorem timeoutFor_eq (h : Holds s seen d) (hname : name ∈ seen) :
    d.timeoutFor name = (endpointOf s name).timeout := by
  rw [timeoutFor, h.timeouts, if_pos hname, Option.getD_some]

/-- A row has the endpoints of its names when they have all been seen. -/
theorem chain_eq (h : Holds s seen d)
    (hseen : ∀ name ∈ s.defaultProvider :: s.fallbackProviders, name ∈ seen) :
    d.chain = (s.defaultProvider :: s.fallbackProviders).map fun name =>
      (endpointOf s name, (endpointOf s name).timeout) := by
  rw [← h.default, ← h.fallbacks] at hseen ⊢
  refine chain_eq_map fun name hname => ?_
  rw [member?, h.get?_eq (hseen name hname), h.timeoutFor_eq (hseen name hname), Option.map_some]

/-- The entries are the names with their endpoints. -/
theorem entries_eq (h : Holds s seen d) :
    d.entries = d.names.map fun name => (name, endpointOf s name) := by
  rw [names, List.map_map]
  refine (List.map_id' d.entries).symm.trans (List.map_congr_left fun entry hentry => ?_)
  exact Prod.ext rfl (h.entries entry hentry)

/-- **It fixes the directory**: two for settings with the same endpoints are the same when the same
names have been seen. -/
theorem same (h : Holds s seen d) (h' : Holds s' seen' d')
    (hdefault : s.defaultProvider = s'.defaultProvider)
    (hfallbacks : s.fallbackProviders = s'.fallbackProviders)
    (hendpoints : endpointOf s = endpointOf s') (hseen : ∀ name, name ∈ seen ↔ name ∈ seen') :
    d.Same d' := by
  -- Names in ascending order are fixed by which names there are, and they fix the entries.
  have hnames : d.names = d'.names := by
    refine List.Perm.eq_of_pairwise (fun a b _ _ hab hba => ?_) h.sorted h'.sorted
      ((List.perm_ext_iff_of_nodup (nodup_of_pairwise h.sorted) (nodup_of_pairwise h'.sorted)).mpr
        fun name => ?_)
    · exact absurd hba (String.lt_asymm hab)
    · rw [h.mem_names, h'.mem_names, hseen]
  refine ⟨?_, ?_, ?_, fun name => ?_⟩
  · rw [h.entries_eq, h'.entries_eq, hnames, hendpoints]
  · rw [h.default, h'.default, hdefault]
  · rw [h.fallbacks, h'.fallbacks, hfallbacks]
  · simp only [h.timeouts, h'.timeouts, hseen, hendpoints]

end Holds

end Directory

/-! ## What settings say of a provider -/

/-- **What is set for a name**: its own settings, or nothing when it has none. -/
inductive Settings.Own (s : Settings) (name : String) : ProviderSettings → Prop
  /-- The name has settings of its own. -/
  | set {own : ProviderSettings} (h : (name, own) ∈ s.providers) : Own s name own
  /-- The name has none. -/
  | unset (h : name ∉ s.providers.map (·.1)) : Own s name {}

/-- **An endpoint as settings want it**, given what is set for its name. -/
structure Endpoint.SetUp (s : Settings) (own : ProviderSettings) (endpoint : Endpoint) : Prop where
  /-- A key of its own is its key. -/
  own_key : ∀ key, own.apiKey = some key → endpoint.apiKey = key
  /-- Without one, the common key is its key. -/
  common_key : own.apiKey = none → ∀ key, s.apiKey = some key → endpoint.apiKey = key
  /-- Without any, its key is empty. -/
  no_key : own.apiKey = none → s.apiKey = none → endpoint.apiKey = ""
  /-- Its address is the one of its own, or else the well-known one, without some slashes at the
  end. -/
  address : ∃ n, (own.apiUrl.getD (knownUrl endpoint.name)).toList =
    endpoint.baseUrl.toList ++ List.replicate n '/'
  /-- No slash is left at the end. -/
  no_slash : endpoint.baseUrl.toList.getLast? ≠ some '/'
  /-- A span of its own is its span. -/
  own_span : ∀ n, own.timeoutSeconds = some n → endpoint.timeout = Time.ofSeconds n
  /-- Without one, its span is the standard one. -/
  no_span : own.timeoutSeconds = none → endpoint.timeout = defaultTimeout

namespace Directory

variable {s : Settings} {name : String}

/-- **The endpoint of a name is as settings want it.** -/
theorem endpointOf_setUp (s : Settings) (name : String) :
    ∃ own, s.Own name own ∧ (endpointOf s name).SetUp s own := by
  refine ⟨(s.providers.lookup name).getD {}, ?_, ?_, ?_, ?_, ?_, ?_, ?_, ?_⟩
  · cases hfound : s.providers.lookup name with
    | none =>
        refine .unset fun hmem => ?_
        rw [← isSome_lookup_iff, hfound] at hmem
        cases hmem
    | some own =>
        exact .set (mem_of_lookup_eq_some hfound)
  · intro key hown
    simp only [endpointOf, hown, Option.some_or, Option.getD_some]
  · intro hown key hcommon
    simp only [endpointOf, hown, hcommon, Option.none_or, Option.getD_some]
  · intro hown hcommon
    simp only [endpointOf, hown, hcommon, Option.none_or, Option.getD_none]
  · exact Endpoint.exists_toList_eq_trimSlashes_append _
  · exact Endpoint.getLast?_trimSlashes_ne
  · intro n hown
    simp only [endpointOf, spanOf, hown, Option.map_some, Option.getD_some]
  · intro hown
    simp only [endpointOf, spanOf, hown, Option.map_none, Option.getD_none]

/-- **A directory that serves settings.** -/
structure Serves (s : Settings) (d : Directory Endpoint) : Prop where
  /-- The names are in ascending order, so none is there twice. -/
  sorted : d.names.Pairwise (· < ·)
  /-- The names are those with settings of their own, the default one and those to fall back to. -/
  mem_names : ∀ name, name ∈ d.names ↔
    name ∈ s.providers.map (·.1) ∨ name = s.defaultProvider ∨ name ∈ s.fallbackProviders
  /-- The provider of every name is the endpoint that is set, and has its span. -/
  set_up : ∀ name ∈ d.names, ∃ own endpoint, s.Own name own ∧ endpoint.name = name ∧
    endpoint.SetUp s own ∧ d.get? name = some endpoint ∧ d.timeoutFor name = endpoint.timeout
  /-- The row that is shown has the default provider and all those to fall back to, in order. -/
  chain_names : d.chain.map (·.1.name) = s.defaultProvider :: s.fallbackProviders
  /-- Each is the provider of its name, with the span of that name. -/
  chain_members : ∀ member ∈ d.chain,
    d.get? member.1.name = some member.1 ∧ d.timeoutFor member.1.name = member.2
  /-- What a run asks is that row, or the default provider when there is none to fall back to. -/
  primary : ∃ first, d.get? s.defaultProvider = some first ∧
    d.primary? = some (if s.fallbackProviders = [] then .single first else .chain d.chain)

/-- The names that settings mention. -/
theorem mem_mentioned_iff : name ∈ mentioned s ↔
    name ∈ s.providers.map (·.1) ∨ name = s.defaultProvider ∨ name ∈ s.fallbackProviders := by
  rw [mentioned, List.mem_append, List.mem_cons]

/-- **A directory that has seen all names that settings mention serves them.** -/
theorem Holds.serves {d : Directory Endpoint} (h : Holds s (mentioned s) d) : Serves s d := by
  have hrow : ∀ name ∈ s.defaultProvider :: s.fallbackProviders, name ∈ mentioned s :=
    fun name hname => List.mem_append_right _ hname
  have hchain := h.chain_eq hrow
  refine ⟨h.sorted, fun name => ?_, fun name hname => ?_, ?_, fun member hmember => ?_, ?_⟩
  · rw [h.mem_names, mem_mentioned_iff]
  · have hseen := (h.mem_names name).mp hname
    obtain ⟨own, hown, hsetUp⟩ := endpointOf_setUp s name
    exact ⟨own, endpointOf s name, hown, rfl, hsetUp, h.get?_eq hseen, h.timeoutFor_eq hseen⟩
  · rw [hchain, List.map_map]
    exact List.map_id' _
  · rw [hchain] at hmember
    obtain ⟨name, hname, rfl⟩ := List.mem_map.mp hmember
    exact ⟨h.get?_eq (hrow name hname), h.timeoutFor_eq (hrow name hname)⟩
  · have hfirst := h.get?_eq (hrow s.defaultProvider List.mem_cons_self)
    refine ⟨endpointOf s s.defaultProvider, hfirst, ?_⟩
    rw [← h.default] at hfirst
    rw [primary?_eq hfirst, h.fallbacks, h.default]

/-- The order of the settings of single providers does not matter for an endpoint. -/
theorem endpointOf_eq_of_perm {listed : List (String × ProviderSettings)}
    (hperm : listed.Perm s.providers) (hkeys : (s.providers.map (·.1)).Nodup) :
    endpointOf { s with providers := listed } = endpointOf s := by
  funext name
  simp only [endpointOf, lookup_eq_of_perm hperm hkeys]

/-- **The directory of settings serves them, whatever the order** in which the settings of single
providers are gone through. -/
theorem ofSettings_serves (s : Settings) (hkeys : (s.providers.map (·.1)).Nodup) :
    Serves s (ofSettings s) ∧ ∀ listed, listed.Perm s.providers →
      (ofSettings { s with providers := listed }).Same (ofSettings s) := by
  refine ⟨(Holds.ofSettings s).serves, fun listed hperm => ?_⟩
  refine (Holds.ofSettings _).same (Holds.ofSettings s) rfl rfl (endpointOf_eq_of_perm hperm hkeys)
    fun name => ?_
  rw [mem_mentioned_iff, mem_mentioned_iff, (hperm.map (·.1)).mem_iff]

/-- Settings of two providers, one of which is to fall back to, give one directory in both orders:
it has a third provider, the default one. -/
theorem ofSettings_serves_of_two :
    let ollama : String × ProviderSettings := ("ollama", { timeoutSeconds := some 30 })
    let openai : String × ProviderSettings :=
      ("openai", { apiKey := some "sk", apiUrl := some "https://openai.test/v1//" })
    let s : Settings := { providers := [ollama, openai], fallbackProviders := ["ollama", "groq"] }
    (s.providers.map (·.1)).Nodup ∧ Serves s (ofSettings s) ∧
      (ofSettings { s with providers := [openai, ollama] }).Same (ofSettings s) ∧
      (ofSettings s).chain.map (·.1.name) = ["openrouter", "ollama", "groq"] := by
  intro ollama openai s
  have hkeys : (s.providers.map (·.1)).Nodup := by decide
  obtain ⟨hserves, horder⟩ := ofSettings_serves s hkeys
  exact ⟨hkeys, hserves, horder [openai, ollama] (.swap ..), hserves.chain_names⟩

end Directory

end Courseware
