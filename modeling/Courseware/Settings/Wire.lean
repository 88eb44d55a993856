import Courseware.Json.Record
import Courseware.Settings.Basic

/-! # Settings as JSON

The names under which settings are written, and how they are read. Whatever is missing has its
default. -/

namespace Courseware

open Json

/-- A task as JSON. -/
def Task.toJson (task : Task) : Json := .string task.name

/-- Reads a task; a name that is not known is the unknown task. -/
def Task.ofJson? (json : Json) : Option Task := (choice? json).map Task.ofName

/-- A float as JSON. -/
def Json.double (x : Float) : Json := .number (.real x)

namespace Limits

/-- Limits as JSON. -/
def toJson (l : Limits) : Json :=
  .object [("threshold_tokens", .nat l.threshold), ("output_ceiling_tokens", .nat l.ceiling),
    ("chunk_size_tokens", .nat l.chunkSize), ("overlap_tokens", .nat l.overlap),
    ("emergency_chars", .nat l.emergencyBytes)]

/-- Reads limits. -/
def ofJson? (json : Json) : Option Limits := do
  let d : Limits := {}
  match ← fields? ["threshold_tokens", "output_ceiling_tokens", "chunk_size_tokens",
      "overlap_tokens", "emergency_chars"] json with
  | [threshold, ceiling, chunkSize, overlap, emergency] =>
    return {
      threshold := ← withDefault d.threshold size? threshold
      ceiling := ← withDefault d.ceiling size? ceiling
      chunkSize := ← withDefault d.chunkSize size? chunkSize
      overlap := ← withDefault d.overlap size? overlap
      emergencyBytes := ← withDefault d.emergencyBytes size? emergency }
  | _ => none

end Limits

namespace Scoring

/-- Scoring constants as JSON. -/
def toJson (s : Scoring) : Json :=
  .object [("keyword_weight", double s.keywordWeight), ("length_weight", double s.lengthWeight),
    ("density_amplification", double s.densityAmplification),
    ("ideal_length_chars", .nat s.idealLength),
    ("general_ideal_length_chars", .nat s.generalIdealLength),
    ("general_length_weight", double s.generalLengthWeight),
    ("general_sentence_weight", double s.generalSentenceWeight),
    ("sentence_saturation", .nat s.sentenceSaturation)]

/-- Reads scoring constants. -/
def ofJson? (json : Json) : Option Scoring := do
  let d : Scoring := {}
  match ← fields? ["keyword_weight", "length_weight", "density_amplification",
      "ideal_length_chars", "general_ideal_length_chars", "general_length_weight",
      "general_sentence_weight", "sentence_saturation"] json with
  | [keyword, length, amplification, ideal, generalIdeal, generalLength, generalSentence,
      saturation] =>
    return {
      keywordWeight := ← withDefault d.keywordWeight float? keyword
      lengthWeight := ← withDefault d.lengthWeight float? length
      densityAmplification := ← withDefault d.densityAmplification float? amplification
      idealLength := ← withDefault d.idealLength size? ideal
      generalIdealLength := ← withDefault d.generalIdealLength size? generalIdeal
      generalLengthWeight := ← withDefault d.generalLengthWeight float? generalLength
      generalSentenceWeight := ← withDefault d.generalSentenceWeight float? generalSentence
      sentenceSaturation := ← withDefault d.sentenceSaturation size? saturation }
  | _ => none

end Scoring

namespace RetrySettings

/-- Retry settings as JSON. -/
def toJson (r : RetrySettings) : Json :=
  .object [("max_attempts", .nat r.maxAttempts), ("initial_delay_ms", .nat r.initialDelayMs)]

/-- Reads retry settings. -/
def ofJson? (json : Json) : Option RetrySettings := do
  let d : RetrySettings := {}
  match ← fields? ["max_attempts", "initial_delay_ms"] json with
  | [maxAttempts, initialDelay] =>
    return {
      maxAttempts := ← withDefault d.maxAttempts word? maxAttempts
      initialDelayMs := ← withDefault d.initialDelayMs size? initialDelay }
  | _ => none

end RetrySettings

namespace TaskSettings

/-- Task settings as JSON. -/
def toJson (t : TaskSettings) : Json :=
  .object [("temperature", single t.temperature), ("max_tokens", .nat t.maxTokens),
    ("flashcard_count", .nat t.flashcardCount), ("quiz_count", .nat t.quizCount),
    ("enabled_tasks", .array (t.enabledTasks.map Task.toJson))]

/-- Reads task settings. -/
def ofJson? (json : Json) : Option TaskSettings := do
  let d : TaskSettings := {}
  match ← fields? ["temperature", "max_tokens", "flashcard_count", "quiz_count", "enabled_tasks"]
      json with
  | [temperature, maxTokens, flashcards, quiz, tasks] =>
    return {
      temperature := ← withDefault d.temperature float32? temperature
      maxTokens := ← withDefault d.maxTokens word? maxTokens
      flashcardCount := ← withDefault d.flashcardCount size? flashcards
      quizCount := ← withDefault d.quizCount size? quiz
      enabledTasks := ← withDefault d.enabledTasks (listOf? Task.ofJson?) tasks }
  | _ => none

end TaskSettings

namespace ProviderSettings

/-- Provider settings as JSON; what is not set is left out. -/
def toJson (p : ProviderSettings) : Json :=
  .object (unlessNone "api_key" Json.string p.apiKey ++ unlessNone "api_url" Json.string p.apiUrl
    ++ unlessNone "default_model" Json.string p.defaultModel
    ++ unlessNone "timeout_secs" Json.nat p.timeoutSeconds)

/-- Reads provider settings. -/
def ofJson? (json : Json) : Option ProviderSettings := do
  match ← fields? ["api_key", "api_url", "default_model", "timeout_secs"] json with
  | [apiKey, apiUrl, defaultModel, timeout] =>
    return {
      apiKey := ← nullable string? apiKey
      apiUrl := ← nullable string? apiUrl
      defaultModel := ← nullable string? defaultModel
      timeoutSeconds := ← nullable size? timeout }
  | _ => none

end ProviderSettings

namespace Settings

/-- Reads whether alerts are sent. -/
def notifications? (json : Json) : Option Bool := do
  match ← fields? ["enabled"] json with
  | [enabled] => withDefault true bool? enabled
  | _ => none

/-- Reads the settings of single providers, and puts them in order. -/
def providers? : Json → Option (List (String × ProviderSettings))
  | .object members =>
    (ordered members).mapM fun member =>
      (ProviderSettings.ofJson? member.2).map fun settings => (member.1, settings)
  | _ => none

/-- Settings as JSON. -/
def toJson (s : Settings) : Json :=
  .object (unlessNone "api_key" Json.string s.apiKey
    ++ [("default_provider", .string s.defaultProvider), ("default_model", .string s.defaultModel)]
    ++ (if s.fallbackProviders.isEmpty then []
      else [("fallback_providers", .array (s.fallbackProviders.map .string))])
    ++ [("bounding", s.limits.toJson), ("scoring", s.scoring.toJson), ("retry", s.retry.toJson),
      ("generation", s.generation.toJson),
      ("notifications", .object [("enabled", .bool s.notifications)]),
      ("providers", .object (s.providers.map fun p => (p.1, p.2.toJson)))])

/-- Reads settings. -/
def ofJson? (json : Json) : Option Settings := do
  let d : Settings := {}
  match ← fields? ["api_key", "default_provider", "default_model", "fallback_providers",
      "bounding", "scoring", "retry", "generation", "notifications", "providers"] json with
  | [apiKey, provider, model, fallback, limits, scoring, retry, generation, notifications,
      providers] =>
    return {
      apiKey := ← nullable string? apiKey
      defaultProvider := ← withDefault d.defaultProvider string? provider
      defaultModel := ← withDefault d.defaultModel string? model
      fallbackProviders := ← withDefault d.fallbackProviders (listOf? string?) fallback
      limits := ← withDefault d.limits Limits.ofJson? limits
      scoring := ← withDefault d.scoring Scoring.ofJson? scoring
      retry := ← withDefault d.retry RetrySettings.ofJson? retry
      generation := ← withDefault d.generation TaskSettings.ofJson? generation
      notifications := ← withDefault d.notifications notifications? notifications
      providers := ← withDefault d.providers providers? providers }
  | _ => none

end Settings

end Courseware
