import Courseware.Time

/-! # Text providers

A **provider** answers a request with a text. It is a black box: its answers may depend on the time
and on a state of its own, they take time, and they may be errors. -/

namespace Courseware

/-- A request for one text. -/
structure Request where
  /-- The model to ask. -/
  model : String
  /-- What the model is told before the prompt. -/
  system : Option String
  /-- The prompt. -/
  prompt : String
  /-- How freely the model may answer; zero is not at all. -/
  temperature : Float32
  /-- The tokens the answer may have. -/
  maxTokens : Option Nat

/-- The tokens a call took. -/
structure Usage where
  /-- Tokens of the prompt. -/
  promptTokens : Nat
  /-- Tokens of the answer. -/
  completionTokens : Nat
  /-- Tokens of both. -/
  totalTokens : Nat
  deriving DecidableEq, Repr

/-- The answer to a request. -/
structure Reply where
  /-- The text, as it came. -/
  text : String
  /-- The model that answered. -/
  model : String
  /-- The tokens used, if they were counted. -/
  usage : Option Usage
  deriving DecidableEq, Repr

/-- Why a provider does not answer. -/
inductive ProviderError where
  /-- The service refused the request. -/
  | api (status : Nat) (message : String)
  /-- Too many requests were made. -/
  | rateLimited (retryAfterSeconds : Nat)
  /-- The key was refused. -/
  | authenticationFailed (message : String)
  /-- There is nothing to ask. -/
  | notConfigured (message : String)
  /-- The answer took too long. -/
  | timeout (message : String)
  /-- The service was not reached. -/
  | network (message : String)
  deriving DecidableEq, Repr

/-- The text of a provider error. -/
def ProviderError.message : ProviderError → String
  | .api status message =>
    "API request failed: " ++ message ++ " (status: " ++ toString status ++ ")"
  | .rateLimited seconds =>
    "Rate limited by provider, retry after " ++ toString seconds ++ "s"
  | .authenticationFailed message => "Authentication failed: " ++ message
  | .notConfigured message => "Provider not configured: " ++ message
  | .timeout message => "Request timed out: " ++ message
  | .network message => "Network error: " ++ message

/-- An answer that may be an error. -/
abbrev Answer (α : Type) := Except ProviderError α

/-- A provider whose state is a `σ`. Every call is told the time at which it starts, and gives its
answer, the time it takes, and the new state. -/
structure Provider (σ : Type) where
  /-- The name of the provider. -/
  name : String
  /-- Answers a request. -/
  generate : Nat → Request → σ → Time.After (Answer Reply) × σ
  /-- Lists the models that can be asked. -/
  listModels : Nat → σ → Time.After (Answer (List String)) × σ :=
    fun _ state => (⟨.ok [], 0⟩, state)
  /-- Whether the provider can be reached. -/
  checkHealth : Nat → σ → Time.After (Answer Bool) × σ :=
    fun _ state => (⟨.ok true, 0⟩, state)

end Courseware
