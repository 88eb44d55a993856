import Courseware.Cli.Help
import Courseware.Context.Stats
import Courseware.Context.Wire
import Courseware.Json.Printer
import Courseware.Provider.Directory
import Courseware.Run.Basic
import Courseware.Run.Wire
import Courseware.Settings.Describe
import Courseware.Sink.Memory
import Courseware.Source

/-! # Commands

`Session.answer` is the whole program: it takes the words of a command line and says what is
printed, which file is written and with which code the program ends. What lies outside of it, the
files, the environment and the network, is a `Session`. -/

namespace Courseware.Cli

/-- What is found at a path. -/
inductive File where
  /-- There is nothing. -/
  | missing (reason : String)
  /-- There is something that cannot be read. -/
  | unreadable (reason : String)
  /-- There is a file with a text. -/
  | text (content : String)
  deriving DecidableEq, Repr

/-- Whether there is something. -/
def File.exists : File → Bool
  | missing _ => false
  | unreadable _ | text _ => true

/-- What is found at the path of a settings file. -/
def File.settings : File → SettingsFile
  | missing _ => .missing
  | unreadable reason => .unreadable reason
  | text content => .text content

/-- What lies outside of the program. -/
structure Session (ν : Type) where
  /-- The variables. -/
  environment : Environment
  /-- What is found at a path. -/
  file : String → File
  /-- Why no file can be written at a path, if none can. -/
  writeFault : String → Option String
  /-- The network. -/
  network : Network ν
  /-- The state of the network. -/
  networkState : ν
  /-- The name that a run is given. -/
  runName : String

/-- How a command ends. -/
structure Ending where
  /-- The exit code. -/
  code : Nat := 0
  /-- What is printed. -/
  output : String := ""
  /-- What is printed for people only. -/
  log : String := ""
  /-- The path and the text of a file that is written. -/
  written : Option (String × String) := none
  deriving DecidableEq, Repr

/-- The end of a command that has failed. -/
def Ending.failure (error : String) : Ending := { code := 1, log := "Error: " ++ error ++ "\n" }

/-- The end after a wrong command line. -/
def Ending.usage : Ending := { code := 2 }

/-- A settings error in one line. -/
def describeSettingsError : SettingsError → String
  | .read path reason =>
    Describe.record "ReadError" [("path", Describe.text path), ("reason", Describe.text reason)]
  | .parse path reason =>
    Describe.record "ParseError" [("path", Describe.text path), ("reason", Describe.text reason)]
  | .invalid message => "ValidationError(" ++ Describe.text message ++ ")"

/-- A run error in one line. -/
def describeRunError : RunError → String
  | .emptySource unit => "EmptySource(" ++ Describe.text unit ++ ")"
  | .nothingEnabled => "NothingEnabled"
  | .allTasksFailed unit failed =>
    Describe.record "AllTasksFailed"
      [("unit_id", Describe.text unit), ("failed", toString failed)]

/-- The last part of a path; none when the path ends in a step upwards or has no parts. -/
def fileName? (path : String) : Option (List Char) :=
  match ((path.toList.splitOn '/').filter fun part => part != [] && part != ['.']).getLast? with
  | some ['.', '.'] => none
  | name? => name?

/-- A name without its extension. A dot at its start belongs to the name. -/
def stem (name : List Char) : List Char :=
  let before := (name.reverse.dropWhile (· != '.')).tail.reverse
  if before.isEmpty then name else before

/-- The unit that a file stands for unless another is named. -/
def unitOf (path : String) : String :=
  match fileName? path with
  | some name => String.ofList (stem name)
  | none => "unit"

/-- A path below a folder. -/
def below (folder path : String) : String :=
  if folder.isEmpty || folder.endsWith "/" then folder ++ path else folder ++ "/" ++ path

/-- The usual path of the settings file. -/
def usualConfig (environment : Environment) : String :=
  below ((environment.lookup "HOME").getD "/tmp") ".lectern/config.toml"

/-- The paths of the files that a command reads. -/
def Invocation.paths (environment : Environment) (invocation : Invocation) : List String :=
  invocation.config.getD (usualConfig environment) ::
    match invocation.command with
    | .generate input .. | .bound input .. | .stats input _ => [input]
    | .onboard | .doctor => []

namespace Session

variable {ν : Type}

/-- The path of the settings file. -/
def configPath (session : Session ν) (config : Option String) : String :=
  config.getD (usualConfig session.environment)

/-- The settings from a file, under the environment. -/
def settings (session : Session ν) (path : String) : Except SettingsError Settings :=
  Settings.loadWith session.environment path (session.file path).settings

/-- The text in a file, which is the text of the page when the file is a web page. -/
def source (session : Session ν) (path : String) (html : Bool) : Except String String :=
  match session.file path with
  | .missing reason | .unreadable reason => .error ("cannot read " ++ path ++ ": " ++ reason)
  | .text content =>
    let text := if html then Source.ofSection none content else Text.trimmed content
    if text.isEmpty then .error (path ++ " contains no text") else .ok text

/-- Continue with the settings and the text of a file. -/
def withSource (session : Session ν) (config : Option String) (input : String) (html : Bool)
    (next : Settings → String → Ending) : Ending :=
  match session.settings (session.configPath config) with
  | .error e => .failure (describeSettingsError e)
  | .ok settings =>
    match session.source input html with
    | .error reason => .failure (Text.quote reason)
    | .ok text => next settings text

/-- Tells the size of a text. -/
def stats (path : String) (settings : Settings) (text : String) : Ending :=
  let stats := (⟨settings.limits, settings.scoring⟩ : Bounding).stats text
  let size := "📊 " ++ path ++ "\n  Characters:      " ++ toString stats.totalBytes
    ++ "\n  Words:           " ++ toString stats.wordCount
    ++ "\n  Tokens (est.):   " ++ toString stats.totalTokens ++ "\n"
  match stats.chunks with
  | none => { output := size ++ "  Needs bounding:  no\n" }
  | some chunks =>
    { output := size ++ "  Needs bounding:  yes (threshold " ++ toString settings.limits.threshold
        ++ " tokens)\n  Chunks:          " ++ toString chunks.count
        ++ "\n  Avg chunk size:  " ++ toString chunks.averageTokens ++ " tokens\n" }

/-- Shows the context of a task. -/
def bound (task : Task) (json : Bool) (settings : Settings) (text : String) : Ending :=
  let bounded := (⟨settings.limits, settings.scoring⟩ : Bounding).bound task text
  if json then { output := bounded.toJson.pretty ++ "\n" }
  else
    let chunks := match bounded.maxChunks with
      | some k =>
        "Chunks:     " ++ toString bounded.chunksSelected ++ " selected of "
          ++ toString bounded.chunksTotal ++ " (K = " ++ toString k ++ ")\n"
      | none => ""
    { output := bounded.text ++ "\n"
      log := "Task:       " ++ bounded.task.name ++ "\nStrategy:   " ++ bounded.strategy.name
        ++ "\nTokens:     " ++ toString bounded.inputTokens ++ " -> "
        ++ toString bounded.outputTokens
        ++ " (ceiling " ++ toString settings.limits.ceiling ++ ")\n" ++ chunks ++ "\n" }

/-- Generates material and shows it with the report of the run. -/
def generate (session : Session ν) (unit : String) (tasks : List Task) (settings : Settings)
    (text : String) : Ending :=
  let chosen : TaskSettings :=
    if tasks.isEmpty then settings.generation
    else { settings.generation with enabledTasks := tasks }
  match (Directory.ofSettings settings).primary? with
  | none =>
    .failure (Text.quote ("provider '" ++ settings.defaultProvider ++ "' is not configured"))
  | some primary =>
    let runner : Runner ν Memory :=
      { bounding := ⟨settings.limits, settings.scoring⟩
        generator :=
          { provider := primary.provider (Endpoint.provider session.network)
            model := settings.defaultModel
            retry := settings.retry.policy }
        sinks := Memory.sinks
        settings := chosen
        notifications := settings.notifications }
    match runner.run unit text ⟨0, session.networkState, {}⟩ with
    | (.error e, _) => .failure (describeRunError e)
    | (.ok report, stage) =>
      let answer : Json :=
        .object [("run", report.toJson session.runName),
          ("results", Material.listToJson (stage.sinks.results.forUnit unit))]
      { output := answer.pretty ++ "\n" }

/-- Writes a settings file with the default settings, unless there is one. -/
def onboard (session : Session ν) (path : String) : Ending :=
  let title := "📚 Lectern: First-Time Setup\n============================\n\n"
  if (session.file path).exists then
    { output := title ++ "⚠️  Config already exists at: " ++ path
        ++ "\n   Edit it manually or delete and re-run onboard.\n\n" }
  else
    match session.writeFault path with
    | some fault => { Ending.failure fault with output := title }
    | none =>
      { output := title ++ "✅ Created config at: " ++ path ++ "\n\n📝 Next steps:\n   1. Edit "
          ++ path ++ " and add your API key\n"
          ++ "      (or export LECTERN_API_KEY / OPENROUTER_API_KEY)\n"
          ++ "   2. Run: lectern doctor\n"
          ++ "   3. Run: lectern generate --input chapter.txt\n\n"
        written := some (path, Settings.template) }

/-- A finding of a check: its line, and whether it is an issue. -/
abbrev Finding := String × Bool

/-- Whether a key is set. -/
def keyFinding (settings : Settings) : Finding :=
  if settings.apiKey.isSome || settings.providers.any fun p => p.2.apiKey.isSome then
    ("  ✅ API key configured\n", false)
  else if settings.defaultProvider == "ollama" then
    ("  ✅ Local provider, no API key needed\n", false)
  else
    ("  ⚠️  No API key configured: add api_key to config.toml or export LECTERN_API_KEY\n", true)

/-- The limits and tasks that are set. -/
def settingsFinding (settings : Settings) : Finding :=
  ("  ℹ️  Bounding: threshold " ++ toString settings.limits.threshold ++ " tokens, ceiling "
    ++ toString settings.limits.ceiling ++ " tokens\n  ℹ️  Enabled tasks: "
    ++ ", ".intercalate (settings.generation.enabledTasks.map Task.name)
    ++ "\n\n  Providers:\n", false)

/-- Whether a provider can be reached. -/
def healthFinding (health : Health) : Finding :=
  match health.healthy, health.error with
  | true, _ => ("  ✅ " ++ health.name ++ " reachable\n", false)
  | false, some error => ("  ❌ " ++ health.name ++ " unreachable: " ++ error ++ "\n", true)
  | false, none => ("  ❌ " ++ health.name ++ " rejected the health check\n", true)

/-- Whether there is a settings file. -/
def fileFinding (session : Session ν) (path : String) : Finding :=
  if (session.file path).exists then ("", false)
  else
    ("  ⚠️  No config file at " ++ path ++ ", using defaults (run `lectern onboard`)\n", true)

/-- The health of all providers that are set. -/
def health (session : Session ν) (settings : Settings) : List Health :=
  let members := (Directory.ofSettings settings).chain.map fun (endpoint, span) =>
    (endpoint.provider session.network).toMember span
  ((⟨Directory.chainName, members⟩ : Chain ν).healthReport 0 session.networkState).1.value

/-- The last line of a check. -/
def verdict (issues : Nat) : String :=
  if issues = 0 then "  🎉 All checks passed!\n"
  else "  ⚠️  " ++ toString issues ++ " issue(s) found. See above for details.\n"

/-- Checks the settings and the providers. -/
def doctor (session : Session ν) (path : String) : Ending :=
  let title := "🩺 Lectern Doctor: System Diagnostics\n=====================================\n\n"
  let first := session.fileFinding path
  match session.settings path with
  | .error e =>
    { output := title ++ first.1 ++ "  ❌ Config invalid: " ++ e.message
        ++ "\n\n  ⚠️  Fix the config before checking providers.\n" }
  | .ok settings =>
    let findings := first :: ("  ✅ Config valid\n", false) :: keyFinding settings
      :: settingsFinding settings :: (session.health settings).map healthFinding
    { output := title ++ String.join (findings.map (·.1)) ++ "\n"
        ++ verdict (findings.countP (·.2)) }

/-- Runs a command. -/
def perform (session : Session ν) (invocation : Invocation) : Ending :=
  let config := invocation.config
  match invocation.command with
  | .generate input unit tasks html =>
    session.withSource config input html (session.generate (unit.getD (unitOf input)) tasks)
  | .bound input task html json => session.withSource config input html (bound task json)
  | .stats input html => session.withSource config input html (stats input)
  | .onboard => session.onboard (session.configPath config)
  | .doctor => session.doctor (session.configPath config)

/-- The whole program, for the words of a command line. -/
def answer (session : Session ν) (words : List String) : Ending :=
  match Invocation.parse session.environment words with
  | .ok invocation => session.perform invocation
  | .error .usage => .usage
  | .error (.help verb) => { output := helpText session.environment verb }
  | .error .version => { output := versionText }

end Session

end Courseware.Cli
