import Courseware.Cli.Command

/-! # The command line

The program over the files and the environment of its process. It has no network of its own, so
every provider is out of reach. -/

open Courseware Courseware.Cli

/-- The reason in an error of the file system. -/
def reasonOf : IO.Error → String
  | .noFileOrDirectory _ code details | .inappropriateType _ code details
  | .permissionDenied _ code details | .otherError code details =>
    details ++ " (os error " ++ toString code ++ ")"
  | error => toString error

/-- What is found at a path. -/
def readFile (path : String) : IO File := do
  try
    return .text (← IO.FS.readFile path)
  catch
    | error@(.noFileOrDirectory ..) => return .missing (reasonOf error)
    | error => return .unreadable (reasonOf error)

/-- The variables of the process that count. -/
def readEnvironment : IO Environment := do
  let names := "HOME" :: Invocation.configVariable :: Settings.providerVariable ::
    Settings.modelVariable :: Settings.keyVariables
  let values ← names.mapM fun name => return (name, ← IO.getEnv name)
  return values.filterMap fun (name, value?) => value?.map fun value => (name, value)

/-- The files that a command line reads. -/
def readFiles (environment : Environment) (words : List String) : IO (List (String × File)) :=
  match Invocation.parse environment words with
  | .ok invocation =>
    (invocation.paths environment).mapM fun path => return (path, ← readFile path)
  | .error _ => return []

/-- The folder in which a path lies. -/
def folderOf (path : String) : String :=
  String.ofList (path.toList.reverse.dropWhile (· != '/')).tail.reverse

/-- Write a file, and the folders in which it lies. -/
def writeFile (path content : String) : IO Unit := do
  unless (folderOf path).isEmpty do IO.FS.createDirAll (folderOf path)
  IO.FS.writeFile path content

/-- A name for a run. -/
def freshName : IO String := do
  let digits (n : Nat) : IO String := do
    return String.ofList ((← (List.range n).mapM fun _ => IO.rand 0 15).map Nat.digitChar)
  return "-".intercalate (← [8, 4, 4, 4, 12].mapM digits)

/-- The program. -/
def main (words : List String) : IO UInt32 := do
  let environment ← readEnvironment
  let files ← readFiles environment words
  let session : Session Unit :=
    { environment
      file := fun path =>
        (files.lookup path).getD (.missing "No such file or directory (os error 2)")
      writeFault := fun _ => none
      network := Network.offline
      networkState := ()
      runName := ← freshName }
  let mut ending := session.answer words
  if let some (path, content) := ending.written then
    try
      writeFile path content
    catch error =>
      ending := { session with writeFault := fun _ => some (reasonOf error) }.answer words
  IO.print ending.output
  IO.eprint ending.log
  return ending.code.toUInt32
