import Courseware.Decimal.Layout
import Courseware.Text.Quoted
import Courseware.Settings.Basic

/-! # Describing settings

`Settings.describe` writes settings in one line for a log. Keys are never shown, only whether there
are any. -/

namespace Courseware

namespace Describe

/-- Floats are written positionally from `0.0001` to below `10 ^ 16`, and a whole one ends in
`.0`. -/
def layout : Decimal.Layout where
  positional := fun leading => -4 ≤ leading && leading < 16
  pointZero := true
  exponentPlus := false
  tie := .up

/-- A named row of fields. -/
def record (name : String) (fields : List (String × String)) : String :=
  name ++ " \x7b "
    ++ ", ".intercalate (fields.map fun field => field.1 ++ ": " ++ field.2) ++ " \x7d"

/-- A row. -/
def list (items : List String) : String := "[" ++ ", ".intercalate items ++ "]"

/-- A value that may be missing. -/
def option (item : Option String) : String :=
  match item with
  | some text => "Some(" ++ text ++ ")"
  | none => "None"

/-- A text in quotes. -/
def text (s : String) : String := Text.quote s

/-- Whether there is a key. -/
def key (apiKey : Option String) : String :=
  text (if apiKey.isSome then "[REDACTED]" else "None")

/-- A truth value. -/
def bool (b : Bool) : String := if b then "true" else "false"

/-- The name of a task, with a capital letter. -/
def task (t : Task) : String := t.name.capitalize

end Describe

open Describe

/-- Limits in one line. -/
def Limits.describe (l : Limits) : String :=
  record "BoundingConfig"
    [("threshold_tokens", toString l.threshold), ("output_ceiling_tokens", toString l.ceiling),
     ("chunk_size_tokens", toString l.chunkSize), ("overlap_tokens", toString l.overlap),
     ("emergency_chars", toString l.emergencyBytes)]

/-- Scoring constants in one line. -/
def Scoring.describe (s : Scoring) : String :=
  record "ScoringConfig"
    [("keyword_weight", layout.float s.keywordWeight),
     ("length_weight", layout.float s.lengthWeight),
     ("density_amplification", layout.float s.densityAmplification),
     ("ideal_length_chars", toString s.idealLength),
     ("general_ideal_length_chars", toString s.generalIdealLength),
     ("general_length_weight", layout.float s.generalLengthWeight),
     ("general_sentence_weight", layout.float s.generalSentenceWeight),
     ("sentence_saturation", toString s.sentenceSaturation)]

/-- Retry settings in one line. -/
def RetrySettings.describe (r : RetrySettings) : String :=
  record "RetryConfig"
    [("max_attempts", toString r.maxAttempts), ("initial_delay_ms", toString r.initialDelayMs)]

/-- Task settings in one line. -/
def TaskSettings.describe (t : TaskSettings) : String :=
  record "GenerationConfig"
    [("temperature", layout.float32 t.temperature), ("max_tokens", toString t.maxTokens),
     ("flashcard_count", toString t.flashcardCount), ("quiz_count", toString t.quizCount),
     ("enabled_tasks", list (t.enabledTasks.map task))]

/-- Provider settings in one line, without the key. -/
def ProviderSettings.describe (p : ProviderSettings) : String :=
  record "ProviderConfig"
    [("api_key", key p.apiKey), ("api_url", option (p.apiUrl.map text)),
     ("default_model", option (p.defaultModel.map text)),
     ("timeout_secs", option (p.timeoutSeconds.map toString))]

/-- Settings in one line, without keys. -/
def Settings.describe (s : Settings) : String :=
  record "AppConfig"
    [("api_key", key s.apiKey), ("default_provider", text s.defaultProvider),
     ("default_model", text s.defaultModel),
     ("fallback_providers", list (s.fallbackProviders.map text)),
     ("bounding", s.limits.describe), ("scoring", s.scoring.describe),
     ("retry", s.retry.describe), ("generation", s.generation.describe),
     ("notifications", record "NotificationConfig" [("enabled", bool s.notifications)]),
     ("providers", "\x7b" ++ ", ".intercalate
        (s.providers.map fun p => text p.1 ++ ": " ++ p.2.describe) ++ "\x7d")]

end Courseware
