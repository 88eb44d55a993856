import Courseware.Settings.Load
import Courseware.Task

/-! # Arguments of the command line

`Invocation.parse` reads the words of a command line: a command with its parameters, and the common
parameters, which may stand before the command or behind it. A parameter is written by its long name
(`--input a.txt`, `--input=a.txt`) or by a letter (`-i a.txt`, `-ia.txt`), and letters may be joined
in one word. Words are read from left to right, one at a time. -/

namespace Courseware.Cli

/-- The parameters of the commands. -/
inductive Parameter where
  /-- The file to read. -/
  | input
  /-- The name of the unit. -/
  | unit
  /-- The task. -/
  | task
  /-- The file is a web page. -/
  | html
  /-- The answer is to be JSON. -/
  | json
  /-- The log is to say more. -/
  | verbose
  /-- The settings file. -/
  | config
  /-- Explain the command. -/
  | help
  /-- Tell the version. -/
  | version
  deriving DecidableEq, Repr

namespace Parameter

/-- The long name. -/
def long : Parameter → String
  | input => "input"
  | unit => "unit"
  | task => "task"
  | html => "html"
  | json => "json"
  | verbose => "verbose"
  | config => "config"
  | help => "help"
  | version => "version"

/-- The letter. -/
def letter? : Parameter → Option Char
  | input => some 'i'
  | unit => some 'u'
  | task => some 't'
  | verbose => some 'v'
  | config => some 'c'
  | help => some 'h'
  | version => some 'V'
  | html | json => none

/-- Whether a value belongs to it. -/
def takesValue : Parameter → Bool
  | input | unit | task | config => true
  | html | json | verbose | help | version => false

/-- Whether a value is one of its values: paths are not empty, and tasks are known. -/
def accepts (parameter : Parameter) (value : String) : Bool :=
  match parameter with
  | input | config => !value.isEmpty
  | task => (Task.parse value).isKnown
  | unit | html | json | verbose | help | version => true

end Parameter

/-- The names of the commands. -/
inductive Verb where
  /-- Generate material. -/
  | generate
  /-- Show the context of a task. -/
  | bound
  /-- Tell the size of a text. -/
  | stats
  /-- Write a settings file. -/
  | onboard
  /-- Check settings and providers. -/
  | doctor
  deriving DecidableEq, Repr

namespace Verb

/-- All commands, in the order in which they are explained. -/
def all : List Verb := [generate, bound, stats, onboard, doctor]

/-- The word for a command. -/
def name : Verb → String
  | generate => "generate"
  | bound => "bound"
  | stats => "stats"
  | onboard => "onboard"
  | doctor => "doctor"

/-- The command with a name. -/
def ofName? (name : String) : Option Verb := all.find? fun verb => verb.name == name

/-- The parameters of a command, apart from the common ones. -/
def parameters : Verb → List Parameter
  | generate => [.input, .unit, .task, .html]
  | bound => [.input, .task, .html, .json]
  | stats => [.input, .html]
  | onboard | doctor => []

/-- The parameters without which a command is not complete. -/
def required : Verb → List Parameter
  | generate | stats => [.input]
  | bound => [.input, .task]
  | onboard | doctor => []

end Verb

/-- The parameters that every command has. -/
def common : List Parameter := [.verbose, .config]

/-- Why a command line does not name a command to run. -/
inductive Halt where
  /-- It is wrong. -/
  | usage
  /-- It asks for an explanation. -/
  | help (verb : Option Verb)
  /-- It asks for the version. -/
  | version
  deriving DecidableEq, Repr

/-- Parameters with their values, the last one first. -/
abbrev Given := List (Parameter × String)

/-- The value of a parameter. -/
def Given.value? (given : Given) (parameter : Parameter) : Option String := given.lookup parameter

/-- Whether a parameter is there. -/
def Given.has (given : Given) (parameter : Parameter) : Bool := (given.value? parameter).isSome

/-- How far a command line has been read. -/
structure Scan where
  /-- The command, once it has been read. -/
  verb : Option Verb := none
  /-- The parameters before the command. -/
  before : Given := []
  /-- The parameters behind the command. -/
  behind : Given := []
  /-- The parameter whose value comes next. -/
  pending : Option Parameter := none
  /-- Whether all further words are no parameters. -/
  plain : Bool := false
  /-- Whether the words name a command to explain. -/
  explaining : Bool := false
  deriving DecidableEq, Repr

namespace Scan

/-- The parameters that may stand here. -/
def allowed (scan : Scan) : List Parameter :=
  match scan.verb with
  | none => common ++ [.help, .version]
  | some verb => verb.parameters ++ common ++ [.help]

/-- The parameters read since the command, or before it. -/
def given (scan : Scan) : Given := if scan.verb.isSome then scan.behind else scan.before

/-- Whether a parameter may be repeated here. -/
def repeats (scan : Scan) (parameter : Parameter) : Bool :=
  scan.verb == some .generate && parameter == .task

/-- Take a parameter with its value. -/
def take (scan : Scan) (parameter : Parameter) (value : String) : Except Halt Scan :=
  if parameter == .help then .error (.help scan.verb)
  else if parameter == .version then .error .version
  else if scan.given.has parameter && !scan.repeats parameter then .error .usage
  else if !parameter.accepts value then .error .usage
  else if scan.verb.isSome then
    .ok { scan with behind := (parameter, value) :: scan.behind, pending := none }
  else .ok { scan with before := (parameter, value) :: scan.before, pending := none }

/-- Take a parameter by its long name. -/
def takeLong (scan : Scan) (word : List Char) : Except Halt Scan :=
  let name := String.ofList (word.takeWhile (· != '='))
  match scan.allowed.find? fun parameter => parameter.long == name with
  | none => .error .usage
  | some parameter =>
    match word.dropWhile (· != '='), parameter.takesValue with
    | [], true => .ok { scan with pending := some parameter }
    | [], false => scan.take parameter ""
    | _ :: value, true => scan.take parameter (String.ofList value)
    | _ :: _, false => .error .usage

/-- Take parameters by their letters. What stands behind the letter of a parameter with a value is
the value. -/
def takeLetters (scan : Scan) : List Char → Except Halt Scan
  | [] => .ok scan
  | letter :: rest =>
    match scan.allowed.find? fun parameter => parameter.letter? == some letter with
    | none => .error .usage
    | some parameter =>
      if parameter.takesValue then
        match rest with
        | [] => .ok { scan with pending := some parameter }
        | '=' :: value => scan.take parameter (String.ofList value)
        | value => scan.take parameter (String.ofList value)
      else (scan.take parameter "").bind fun scan => scan.takeLetters rest

/-- Take a word that is no parameter: the name of a command. -/
def takePlain (scan : Scan) (word : String) : Except Halt Scan :=
  if scan.verb.isSome || scan.plain then .error .usage
  else if word == "help" then .ok { scan with explaining := true }
  else
    match Verb.ofName? word with
    | some verb => .ok { scan with verb := some verb }
    | none => .error .usage

/-- Take a word behind `help`: the name of the command to explain. -/
def takeTopic (scan : Scan) (word : String) : Except Halt Scan :=
  if scan.verb.isSome then .error .usage
  else
    match Verb.ofName? word with
    | some verb => .ok { scan with verb := some verb }
    | none => .error .usage

/-- Whether a word looks like a parameter. A single dash does not. -/
def looksLikeParameter (word : List Char) : Bool := word.head? == some '-' && word.length != 1

/-- Take a word. -/
def word (scan : Scan) (word : String) : Except Halt Scan :=
  let cs := word.toList
  match scan.pending with
  | some parameter => if looksLikeParameter cs then .error .usage else scan.take parameter word
  | none =>
    if scan.explaining then scan.takeTopic word
    else if scan.plain || !looksLikeParameter cs then scan.takePlain word
    else if word == "--" then .ok { scan with plain := true }
    else if cs.take 2 == ['-', '-'] then scan.takeLong (cs.drop 2)
    else scan.takeLetters (cs.drop 1)

end Scan

/-- A command to run. -/
inductive Command where
  /-- Generate material from a file for a unit, for some tasks or for those that are set. -/
  | generate (input : String) (unit : Option String) (tasks : List Task) (html : Bool)
  /-- Show the context of a task for a file. -/
  | bound (input : String) (task : Task) (html json : Bool)
  /-- Tell the size of a file. -/
  | stats (input : String) (html : Bool)
  /-- Write a settings file. -/
  | onboard
  /-- Check settings and providers. -/
  | doctor
  deriving DecidableEq, Repr

/-- A command with the common parameters. -/
structure Invocation where
  /-- The command. -/
  command : Command
  /-- The settings file, unless it is the usual one. -/
  config : Option String
  deriving DecidableEq, Repr

namespace Invocation

/-- The variable that names the settings file. -/
def configVariable : String := "LECTERN_CONFIG"

/-- The settings file, by the parameters before and behind the command and the environment. An empty
variable is refused where it would count. -/
def configPath (environment : Environment) (scan : Scan) : Except Halt (Option String) :=
  match scan.before.value? .config, scan.behind.value? .config with
  | some _, some path => .ok (some path)
  | first, second =>
    match environment.lookup configVariable with
    | some "" => .error .usage
    | named? => .ok ((second.or first).or named?)

/-- The command of a verb with its parameters. -/
def command? (verb : Verb) (given : Given) : Option Command :=
  let input? := given.value? .input
  let html := given.has .html
  match verb with
  | .generate =>
    let named := (given.filter fun item => item.1 == .task).reverse
    let tasks := named.map fun item => Task.parse item.2
    input?.map fun input => .generate input (given.value? .unit) tasks html
  | .bound =>
    input?.bind fun input =>
      (given.value? .task).map fun task => .bound input (Task.parse task) html (given.has .json)
  | .stats => input?.map fun input => .stats input html
  | .onboard => some .onboard
  | .doctor => some .doctor

/-- What the words that have been read ask for. -/
def ofScan (environment : Environment) (scan : Scan) : Except Halt Invocation :=
  if scan.explaining then .error (.help scan.verb)
  else if scan.pending.isSome then .error .usage
  else
    match scan.verb.bind fun verb => command? verb scan.behind with
    | none => .error .usage
    | some command => (configPath environment scan).map fun config => ⟨command, config⟩

/-- What the words of a command line ask for. -/
def parse (environment : Environment) (words : List String) : Except Halt Invocation :=
  (words.foldlM Scan.word {}).bind (ofScan environment)

end Invocation

end Courseware.Cli
