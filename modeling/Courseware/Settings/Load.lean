import Courseware.Text.Blank
import Courseware.Toml.Document
import Courseware.Toml.Printer
import Courseware.Settings.Check
import Courseware.Settings.Wire

/-! # Loading settings

Settings come from a file, and some of them from the environment: the key when the file has none,
the provider and the model in place of those of the file. Without a file all settings have their
defaults. -/

namespace Courseware

/-- What is found at the path of the settings file. -/
inductive SettingsFile where
  /-- There is no file. -/
  | missing
  /-- There is something that cannot be read. -/
  | unreadable (reason : String)
  /-- There is a file with a text. -/
  | text (content : String)
  deriving DecidableEq, Repr

/-- The variables of an environment. -/
abbrev Environment := List (String × String)

namespace Settings

/-- The variables that may hold the key, the first one first. -/
def keyVariables : List String := ["LECTERN_API_KEY", "OPENROUTER_API_KEY", "OPENAI_API_KEY"]

/-- The variable that holds the provider. -/
def providerVariable : String := "LECTERN_PROVIDER"

/-- The variable that holds the model. -/
def modelVariable : String := "LECTERN_MODEL"

/-- The first key in an environment that is not blank. -/
def environmentKey (environment : Environment) : Option String :=
  keyVariables.findSome? fun name =>
    (environment.lookup name).filter fun value => !Text.blank value

/-- The settings under an environment. -/
def override (environment : Environment) (s : Settings) : Settings :=
  { s with
    apiKey := s.apiKey.or (environmentKey environment)
    defaultProvider := (environment.lookup providerVariable).getD s.defaultProvider
    defaultModel := (environment.lookup modelVariable).getD s.defaultModel }

/-- The settings, when they are sound. -/
def checked (s : Settings) : Except SettingsError Settings := s.check.map fun () => s

/-- The settings in a file at a path. -/
def load (path : String) : SettingsFile → Except SettingsError Settings
  | .missing => .ok {}
  | .unreadable reason => .error (.read path reason)
  | .text content =>
    match (Toml.parse content.toList).bind ofJson? with
    | some s => s.checked
    | none => .error (.parse path "the document does not hold settings")

/-- The settings in a file at a path, under an environment. -/
def loadWith (environment : Environment) (path : String) (file : SettingsFile) :
    Except SettingsError Settings := do
  let s ← load path file
  (s.override environment).checked

/-- The default settings as a file. -/
def template : String := Toml.render ({} : Settings).toJson

end Settings

end Courseware
