import Courseware.Context.Limits
import Courseware.Relevance.Scoring
import Courseware.Generation.Retry
import Courseware.Generation.Settings

/-! # Settings

All that can be set: keys and models of providers, the limits of contexts, the constants of the
relevance score, retries, tasks and alerts. Everything has a default. -/

namespace Courseware

/-- What is set for one provider. -/
structure ProviderSettings where
  /-- The key, in place of the common one. -/
  apiKey : Option String := none
  /-- The address, in place of the well-known one. -/
  apiUrl : Option String := none
  /-- The model to ask. -/
  defaultModel : Option String := none
  /-- The seconds within which the provider must answer. -/
  timeoutSeconds : Option Nat := none
  deriving DecidableEq, Repr

/-- How often to try, and how long to wait. -/
structure RetrySettings where
  /-- How often to try. -/
  maxAttempts : Nat := 3
  /-- The milliseconds to wait after the first failure. -/
  initialDelayMs : Nat := 1000
  deriving DecidableEq, Repr

/-- The retry policy that is set. -/
def RetrySettings.policy (settings : RetrySettings) : RetryPolicy :=
  .ofAttempts settings.maxAttempts (Time.ofMilliseconds settings.initialDelayMs)

/-- All that can be set. -/
structure Settings where
  /-- The key for providers that have none of their own. -/
  apiKey : Option String := none
  /-- The provider to ask. -/
  defaultProvider : String := "openrouter"
  /-- The model to ask. -/
  defaultModel : String := "openai/gpt-4o-mini"
  /-- The providers to ask when the first one fails, in order. -/
  fallbackProviders : List String := []
  /-- The limits of contexts. -/
  limits : Limits := {}
  /-- The constants of the relevance score. -/
  scoring : Scoring := {}
  /-- The retries. -/
  retry : RetrySettings := {}
  /-- How material is generated. -/
  generation : TaskSettings := {}
  /-- Whether alerts are sent. -/
  notifications : Bool := true
  /-- What is set for single providers, in ascending order of their names. -/
  providers : List (String × ProviderSettings) := []

end Courseware
