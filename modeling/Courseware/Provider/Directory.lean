import Courseware.Provider.Endpoint
import Courseware.Settings.Basic

/-! # Directories of providers

A **directory** holds providers by name, with a default one, the names to fall back to, and the span
within which each must answer. `Directory.ofSettings` fills it with the endpoints of all providers
that settings mention. -/

namespace Courseware

/-- Providers by name. -/
structure Directory (α : Type) where
  /-- The providers, in ascending order of their names. -/
  entries : List (String × α)
  /-- The name of the default provider. -/
  default : String
  /-- The names to fall back to, in order. -/
  fallbacks : List String
  /-- The spans that are set for single names. -/
  timeouts : List (String × Nat)

namespace Directory

variable {α : Type}

/-- A directory without providers. -/
def empty (default : String) (fallbacks : List String) : Directory α := ⟨[], default, fallbacks, []⟩

/-- Entries in ascending order with one more entry, in place of one of the same name. -/
def insert (name : String) (a : α) : List (String × α) → List (String × α)
  | [] => [(name, a)]
  | (other, b) :: rest =>
    if name < other then (name, a) :: (other, b) :: rest
    else if name = other then (name, a) :: rest
    else (other, b) :: insert name a rest

/-- The directory with one more provider. -/
def register (d : Directory α) (name : String) (a : α) : Directory α :=
  { d with entries := insert name a d.entries }

/-- The provider of a name. -/
def get? (d : Directory α) (name : String) : Option α := d.entries.lookup name

/-- All names, in ascending order. -/
def names (d : Directory α) : List String := d.entries.map (·.1)

/-- The default provider. -/
def default? (d : Directory α) : Option α := d.get? d.default

/-- The span within which the provider of a name must answer. -/
def timeoutFor (d : Directory α) (name : String) : Nat :=
  (d.timeouts.lookup name).getD defaultTimeout

/-- The provider of a name with its span. -/
def member? (d : Directory α) (name : String) : Option (α × Nat) :=
  (d.get? name).map fun a => (a, d.timeoutFor name)

/-- The providers in the order in which they are tried; names without a provider are left out. -/
def chain (d : Directory α) : List (α × Nat) := (d.default :: d.fallbacks).filterMap d.member?

/-- What a run asks. -/
inductive Primary (α : Type) where
  /-- One provider. -/
  | single (a : α)
  /-- A row of providers with their spans. -/
  | chain (members : List (α × Nat))

/-- What a run asks: the default provider, or a row that begins with it when there are names to fall
back to. -/
def primary? (d : Directory α) : Option (Primary α) :=
  d.default?.map fun a =>
    if d.fallbacks.isEmpty then .single a
    else .chain ((a, d.timeoutFor d.default) :: d.fallbacks.filterMap d.member?)

/-- The name of a chain for runs. -/
def chainName : String := "fallback"

/-- The name of what a run asks. -/
def Primary.name (nameOf : α → String) : Primary α → String
  | single a => nameOf a
  | chain _ => chainName

/-- What a run asks, as a provider. -/
def Primary.provider {σ : Type} (providerOf : α → Provider σ) : Primary α → Provider σ
  | single a => providerOf a
  | chain members =>
    Chain.provider ⟨chainName, members.map fun m => (providerOf m.1).toMember m.2⟩

/-- The span that is set for a provider, or the standard one. -/
def spanOf (settings : ProviderSettings) : Nat :=
  (settings.timeoutSeconds.map Time.ofSeconds).getD defaultTimeout

/-- The endpoint of a provider under settings. -/
def endpointOf (settings : Settings) (name : String) : Endpoint :=
  let own := (settings.providers.lookup name).getD {}
  { name := name
    baseUrl := Endpoint.trimSlashes (own.apiUrl.getD (Endpoint.knownUrl name))
    apiKey := (own.apiKey.or settings.apiKey).getD ""
    timeout := spanOf own }

/-- A directory with the endpoint of a name, unless it has one already. -/
def mention (settings : Settings) (d : Directory Endpoint) (name : String) : Directory Endpoint :=
  if (d.get? name).isSome then d
  else
    let endpoint := endpointOf settings name
    { d.register name endpoint with timeouts := (name, endpoint.timeout) :: d.timeouts }

/-- The names that settings mention: those with settings of their own, the default one, and those to
fall back to. -/
def mentioned (settings : Settings) : List String :=
  settings.providers.map (·.1) ++ settings.defaultProvider :: settings.fallbackProviders

/-- The endpoints of all providers that settings mention. -/
def ofSettings (settings : Settings) : Directory Endpoint :=
  (mentioned settings).foldl (mention settings)
    (empty settings.defaultProvider settings.fallbackProviders)

end Directory

end Courseware
