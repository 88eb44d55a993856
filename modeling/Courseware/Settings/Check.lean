import Courseware.Settings.Basic

/-! # Checking settings

`Settings.check` refuses settings that contradict each other, with the first fault in a fixed
order. -/

namespace Courseware

/-- Why there are no settings. -/
inductive SettingsError where
  /-- The file cannot be read. -/
  | read (path reason : String)
  /-- The file does not hold settings. -/
  | parse (path reason : String)
  /-- The settings contradict each other. -/
  | invalid (message : String)
  deriving DecidableEq, Repr

/-- The text of a settings error. -/
def SettingsError.message : SettingsError → String
  | .read path reason => "Failed to read config file at " ++ path ++ ": " ++ reason
  | .parse path reason => "Failed to parse config file at " ++ path ++ ": " ++ reason
  | .invalid message => "Configuration validation failed: " ++ message

namespace Settings

/-- Every rule that settings have to keep, with whether it is broken. -/
def faults (s : Settings) : List (Bool × String) :=
  [(s.generation.temperature < 0.0 || 2.0 < s.generation.temperature,
      "generation.temperature must be between 0.0 and 2.0"),
   (s.retry.maxAttempts = 0, "retry.max_attempts must be at least 1"),
   (s.limits.ceiling = 0, "bounding.output_ceiling_tokens must be > 0"),
   (s.limits.ceiling < s.limits.threshold,
      "bounding.threshold_tokens must not exceed output_ceiling_tokens"),
   (s.limits.chunkSize = 0, "bounding.chunk_size_tokens must be > 0"),
   (s.limits.chunkSize ≤ s.limits.overlap,
      "bounding.overlap_tokens must be smaller than chunk_size_tokens"),
   (s.fallbackProviders.contains s.defaultProvider,
      "fallback_providers must not repeat default_provider"),
   (s.providers.any fun provider => provider.2.timeoutSeconds == some 0,
      "providers.*.timeout_secs must be > 0"),
   (s.scoring.keywordWeight + s.scoring.lengthWeight ≤ 0,
      "scoring.keyword_weight + scoring.length_weight must be > 0"),
   (s.scoring.generalLengthWeight + s.scoring.generalSentenceWeight ≤ 0,
      "scoring.general_length_weight + scoring.general_sentence_weight must be > 0")]

/-- The first broken rule, if any is broken. -/
def check (s : Settings) : Except SettingsError Unit :=
  match s.faults.find? (·.1) with
  | some (_, message) => .error (.invalid message)
  | none => .ok ()

end Settings

end Courseware
