import Courseware.Cli.Arguments

/-! # Explanations of the command line

The texts that `--help` and `--version` show: the commands, and the parameters of each in a table of
two columns. -/

namespace Courseware.Cli

/-- The name of the program. -/
def programName : String := "lectern"

/-- The line with the version of the program. -/
def versionText : String := programName ++ " 0.1.0\n"

/-- What the program is for. -/
def about : String := "Lectern: study material from long texts, one bounded prompt at a time"

/-- What a command does. -/
def Verb.about : Verb → String
  | generate => "Generate study material for a source file"
  | bound => "Print the bounded context for one task type"
  | stats => "Print size statistics for a source file"
  | onboard => "Initialize configuration"
  | doctor => "Diagnose configuration and provider health"

/-- The word for the value of a parameter of a command. -/
def Parameter.valueName (verb : Option Verb) : Parameter → String
  | input => "INPUT"
  | unit => "UNIT"
  | task => if verb == some .generate then "TASKS" else "TASK"
  | config => "CONFIG"
  | html | json | verbose | help | version => ""

/-- What a parameter of a command does. -/
def Parameter.about (environment : Environment) (verb : Option Verb) (parameter : Parameter) :
    String :=
  match parameter, verb with
  | input, some .generate => "Source text (or HTML with --html)"
  | unit, some .generate =>
    "Unit id used for results and error markers (defaults to the file stem)"
  | task, some .generate => "Restrict to these task types (repeatable)"
  | html, some .generate => "Treat the input as HTML and normalize it first"
  | json, some .bound => "Print the full report as JSON"
  | verbose, _ => "Enable verbose logging"
  | config, _ =>
    "Config file to use instead of ~/.lectern/config.toml [env: "
      ++ Invocation.configVariable ++ "="
      ++ (environment.lookup Invocation.configVariable).getD "" ++ "]"
  | help, _ => "Print help"
  | version, _ => "Print version"
  | _, _ => ""

/-- A parameter with its value, as it is written. -/
def Parameter.usage (verb : Option Verb) (parameter : Parameter) : String :=
  "--" ++ parameter.long ++
    if parameter.takesValue then " <" ++ parameter.valueName verb ++ ">" else ""

/-- A parameter with its letter, its long name and its value. -/
def Parameter.spelling (verb : Option Verb) (parameter : Parameter) : String :=
  (match parameter.letter? with
    | some letter => "-" ++ letter.toString ++ ", "
    | none => "    ") ++ parameter.usage verb

/-- The parameters of a command in the order in which they are explained: the common ones stand
beside the first ones of the command, in the order of their letters. -/
def explained : Option Verb → List Parameter
  | none => [.verbose, .config, .help, .version]
  | some .generate => [.input, .verbose, .config, .unit, .task, .html, .help]
  | some .bound => [.input, .verbose, .config, .task, .html, .json, .help]
  | some .stats => [.input, .verbose, .config, .html, .help]
  | some .onboard | some .doctor => [.verbose, .config, .help]

/-- The rows of a table, with the first column padded to its longest entry. -/
def table (rows : List (String × String)) : String :=
  let width := rows.foldl (fun width row => max width row.1.length) 0
  let filling (name : String) := String.ofList (List.replicate (width - name.length) ' ')
  String.join (rows.map fun (name, about) => "  " ++ name ++ filling name ++ "  " ++ about ++ "\n")

/-- The table of the parameters of a command. -/
def parameterTable (environment : Environment) (verb : Option Verb) : String :=
  "Options:\n" ++ table ((explained verb).map fun parameter =>
    (parameter.spelling verb, parameter.about environment verb))

/-- The table of the commands. -/
def verbTable : String :=
  "Commands:\n" ++ table (Verb.all.map (fun verb => (verb.name, verb.about)) ++
    [("help", "Print this message or the help of the given subcommand(s)")])

/-- The explanation of the program or of one command. -/
def helpText (environment : Environment) : Option Verb → String
  | none =>
    about ++ "\n\nUsage: " ++ programName ++ " [OPTIONS] <COMMAND>\n\n" ++ verbTable ++ "\n"
      ++ parameterTable environment none
  | some verb =>
    verb.about ++ "\n\nUsage: " ++ programName ++ " " ++ verb.name ++ " [OPTIONS]"
      ++ String.join (verb.required.map fun parameter => " " ++ parameter.usage (some verb))
      ++ "\n\n" ++ parameterTable environment (some verb)

end Courseware.Cli
