import Courseware.Generation.Retry
import Courseware.Provider.Basic
import Courseware.Prompt
import Courseware.Response.Validation

/-! # Generation

A **generation** asks a provider for the response to one request until a response is sound or the
attempts are used up. An attempt fails when the provider gives an error and when the response is not
sound; both are tried again alike. There is no wait after the last attempt. -/

namespace Courseware

/-- The phases of a generation. -/
inductive Phase where
  | building
  | calling
  | validating
  | retryWait
  | succeeded
  | failed
  deriving DecidableEq, Repr

namespace Phase

/-- The phases in order. -/
def all : List Phase := [building, calling, validating, retryWait, succeeded, failed]

/-- The name of a phase. -/
def name : Phase → String
  | building => "building"
  | calling => "calling"
  | validating => "validating"
  | retryWait => "retry_wait"
  | succeeded => "succeeded"
  | failed => "failed"

end Phase

/-- Why an attempt failed. -/
inductive AttemptError where
  /-- The provider gave an error. -/
  | transport (error : ProviderError)
  /-- The response was not sound. -/
  | validation (error : ValidationError)
  deriving DecidableEq, Repr

/-- The text of a failed attempt. -/
def AttemptError.message : AttemptError → String
  | .transport error => "transport: " ++ error.message
  | .validation error => "validation: " ++ error.message

/-- A generation that succeeded. -/
structure Outcome where
  /-- The task. -/
  task : Task
  /-- The material. -/
  material : Material
  /-- How many attempts were made. -/
  attempts : Nat
  /-- The time from the first call to the last answer. -/
  elapsed : Nat
  /-- How the items fared, for a collection. -/
  batch : Option Batch
  /-- The model that answered. -/
  model : String
  /-- The tokens used, if they were counted. -/
  usage : Option Usage
  deriving DecidableEq, Repr

/-- A generation that failed: every attempt was used up. -/
structure Exhausted where
  /-- The task. -/
  task : Task
  /-- How many attempts were made. -/
  attempts : Nat
  /-- The text of the last error. -/
  lastError : String
  /-- The time from the first call to the last answer. -/
  elapsed : Nat
  deriving DecidableEq, Repr

/-- The text of a failed generation. -/
def Exhausted.message (failure : Exhausted) : String :=
  failure.task.name ++ " generation failed after " ++ toString failure.attempts
    ++ " attempt(s) in " ++ Time.text failure.elapsed ++ "s: " ++ failure.lastError

/-- What generates: a provider and how to call it. -/
structure Generator (σ : Type) where
  /-- The provider. -/
  provider : Provider σ
  /-- The model to ask. -/
  model : String
  /-- What the model is told before the prompt. -/
  system : Option String := none
  /-- How often to try. -/
  retry : RetryPolicy := RetryPolicy.standard

namespace Generator

variable {σ : Type}

/-- The request to the provider. -/
def requestFor (generator : Generator σ) (request : GenerationRequest) : Request where
  model := generator.model
  system := generator.system
  prompt := Prompt.build request
  temperature := request.options.temperature
  maxTokens := some request.options.maxTokens

/-- A reply with what was made of it, or why it failed. -/
def judge (request : GenerationRequest) : Answer Reply → Except AttemptError (Reply × Validated)
  | .error e => .error (.transport e)
  | .ok reply =>
    match Response.validate request.task reply.text request.options.itemCount with
    | .ok validated => .ok (reply, validated)
    | .error e => .error (.validation e)

/-- A time, and what came of a generation by then. -/
abbrev Ended := Time.After (Except Exhausted Outcome)

/-- Makes attempt number `attempt` and, when it fails, up to `left` more. `spent` is the time since
the first attempt began at `start`. -/
def attempts (generator : Generator σ) (request : GenerationRequest) (start : Nat) :
    (left attempt spent : Nat) → σ → Ended × σ
  | left, attempt, spent, state =>
    let (answer, state) :=
      generator.provider.generate (start + spent) (generator.requestFor request) state
    let spent := spent + answer.took
    match judge request answer.value with
    | .ok (reply, validated) =>
      (⟨.ok ⟨request.task, validated.material, attempt, spent, validated.batch, reply.model,
        reply.usage⟩, spent⟩, state)
    | .error e =>
      match left with
      | 0 => (⟨.error ⟨request.task, attempt, e.message, spent⟩, spent⟩, state)
      | left + 1 =>
        generator.attempts request start left (attempt + 1)
          (spent + generator.retry.delayAfter attempt) state

/-- Runs a generation that begins at the time `now`. -/
def generate (generator : Generator σ) (request : GenerationRequest) (now : Nat) (state : σ) :
    Ended × σ :=
  generator.attempts request now (generator.retry.maxAttempts - 1) 1 0 state

end Generator

end Courseware
