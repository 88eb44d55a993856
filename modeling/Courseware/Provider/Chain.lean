import Courseware.Provider.Basic

/-! # Chains of providers

A **chain** tries its members in order until one of them answers in time. Every member has a span of
time within which it must answer; an answer at the very end of the span is in time. A member that is
given up has still been called. -/

namespace Courseware

/-- The span within which a member of a chain must answer unless another is set. -/
def defaultTimeout : Nat := Time.ofSeconds 120

/-- A member of a chain. An answer of `none` never comes. -/
structure Member (σ : Type) where
  /-- The name of the provider. -/
  name : String
  /-- The span within which it must answer. -/
  timeout : Nat
  /-- Answers a request, or never does. -/
  generate : Nat → Request → σ → Option (Time.After (Answer Reply)) × σ
  /-- Whether the provider can be reached, if it ever says so. -/
  checkHealth : Nat → σ → Option (Time.After (Answer Bool)) × σ
  /-- Lists the models that can be asked. -/
  listModels : Nat → σ → Time.After (Answer (List String)) × σ

/-- A provider as a member of a chain. -/
def Provider.toMember {σ : Type} (provider : Provider σ) (timeout : Nat) : Member σ where
  name := provider.name
  timeout := timeout
  generate := fun now request state =>
    let (answer, state) := provider.generate now request state
    (some answer, state)
  checkHealth := fun now state =>
    let (answer, state) := provider.checkHealth now state
    (some answer, state)
  listModels := provider.listModels

/-- What is known of an answer when the span for it is over: the answer, if it was in time, and the
time that passed. -/
def Time.within {α : Type} (timeout : Nat) : Option (Time.After α) → Time.After (Option α)
  | some answer =>
    if answer.took ≤ timeout then ⟨some answer.value, answer.took⟩ else ⟨none, timeout⟩
  | none => ⟨none, timeout⟩

/-- A named row of members. -/
structure Chain (σ : Type) where
  /-- The name of the chain. -/
  name : String
  /-- The members in the order in which they are tried. -/
  members : List (Member σ)

/-- Whether a member can be reached. -/
structure Health where
  /-- The name of the member. -/
  name : String
  /-- Whether it can be reached. -/
  healthy : Bool
  /-- Why it could not be asked. -/
  error : Option String
  deriving DecidableEq, Repr

namespace Chain

variable {σ : Type}

/-- The error of a member that did not answer in time. -/
def outOfTime (member : Member σ) : ProviderError :=
  .timeout ("Provider '" ++ member.name ++ "' timed out after "
    ++ toString (Time.seconds member.timeout) ++ "s")

/-- The error of a chain without members. -/
def noMembers : ProviderError := .notConfigured "No providers in fallback chain"

/-- Tries members in order; `last` is the error of the member before them. -/
def tryMembers (request : Request) : List (Member σ) → ProviderError → Nat → σ →
    Time.After (Answer Reply) × σ
  | [], last, _, state => (⟨.error last, 0⟩, state)
  | member :: rest, _, now, state =>
    let (answer, state) := member.generate now request state
    let heard := Time.within member.timeout answer
    match heard.value with
    | some (.ok reply) => (⟨.ok reply, heard.took⟩, state)
    | some (.error e) =>
      let (later, state) := tryMembers request rest e (now + heard.took) state
      (⟨later.value, heard.took + later.took⟩, state)
    | none =>
      let (later, state) := tryMembers request rest (outOfTime member) (now + heard.took) state
      (⟨later.value, heard.took + later.took⟩, state)

/-- The first answer of a member that comes in time, or else the error of the last member. -/
def generate (chain : Chain σ) (now : Nat) (request : Request) (state : σ) :
    Time.After (Answer Reply) × σ :=
  tryMembers request chain.members noMembers now state

/-- The health of a member by what was heard of it. -/
def healthOf (member : Member σ) : Option (Answer Bool) → Health
  | some (.ok healthy) => ⟨member.name, healthy, none⟩
  | some (.error e) => ⟨member.name, false, some e.message⟩
  | none =>
    ⟨member.name, false, some ("timed out after " ++ toString (Time.seconds member.timeout) ++ "s")⟩

/-- The health of members, asked one after another. -/
def healthOfAll : List (Member σ) → Nat → σ → Time.After (List Health) × σ
  | [], _, state => (⟨[], 0⟩, state)
  | member :: rest, now, state =>
    let (answer, state) := member.checkHealth now state
    let heard := Time.within member.timeout answer
    let (later, state) := healthOfAll rest (now + heard.took) state
    (⟨healthOf member heard.value :: later.value, heard.took + later.took⟩, state)

/-- The health of every member, in order. -/
def healthReport (chain : Chain σ) (now : Nat) (state : σ) : Time.After (List Health) × σ :=
  healthOfAll chain.members now state

/-- The models of members, asked one after another. A member that gives an error has none. -/
def modelsOfAll : List (Member σ) → Nat → σ → Time.After (List String) × σ
  | [], _, state => (⟨[], 0⟩, state)
  | member :: rest, now, state =>
    let (answer, state) := member.listModels now state
    let (later, state) := modelsOfAll rest (now + answer.took) state
    let models := match answer.value with
      | .ok models => models
      | .error _ => []
    (⟨models ++ later.value, answer.took + later.took⟩, state)

/-- A chain as a provider: it can be reached when some member can. -/
def provider (chain : Chain σ) : Provider σ where
  name := chain.name
  generate := chain.generate
  listModels := fun now state =>
    let (models, state) := modelsOfAll chain.members now state
    (⟨.ok models.value, models.took⟩, state)
  checkHealth := fun now state =>
    let (report, state) := chain.healthReport now state
    (⟨.ok (report.value.any (·.healthy)), report.took⟩, state)

end Chain

end Courseware
