import CommandPrompt.Command.Run
import CommandPrompt.World.Packaged

/-!
# The program

The command line as a program: it looks up the settings file and the world on disk, runs the
command, prints, and ends with the command's code.
-/

namespace CommandPrompt

/-- The places where a settings file is looked for: the working folder, and the folders above it. -/
def settingsPlaces (depth : Nat) : List Path :=
  (List.range (depth + 1)).map fun level =>
    ⟨.workingFolder, List.replicate level ['.', '.'] ++ [".env".toList]⟩

/-- The problem that a failure to read a file shows. -/
def problemOf : IO.Error → FileProblem
  | .noFileOrDirectory .. => .missing
  | .inappropriateType _ 20 _ => .notFolder
  | .inappropriateType _ 21 _ => .isFolder
  | .resourceExhausted _ 36 _ | .invalidArgument _ 36 _ => .nameTooLong
  | failure => .other failure.toString

/-- The bytes of a file on disk. -/
def readFile (path : Path) : IO (Except FileProblem (List UInt8)) := do
  if path.toText.contains (Char.ofNat 0) then return .error .zeroCharacter
  try
    let bytes ← IO.FS.readBinFile (String.ofList path.toText)
    return .ok bytes.toList
  catch failure => return .error (problemOf failure)

/-- The bytes of the nearest settings file. -/
def readSettings : List Path → IO (Except SettingsFault (Option (List UInt8)))
  | [] => return .ok none
  | place :: rest => do
    match ← readFile place with
    | .ok bytes => return .ok (some bytes)
    | .error (.other message) => return .error (.other message)
    | .error _ => readSettings rest

/-- The values that the system has for some names. -/
def readEnvironment : List Text → IO Environment
  | [] => return []
  | name :: rest => do
    let others ← readEnvironment rest
    match ← IO.getEnv (String.ofList name) with
    | some value => return (name, value.toList) :: others
    | none => return others

/-- The names that a settings file can change or mention, besides those of the settings. -/
def namesIn (settingsFile : Except SettingsFault (Option (List UInt8))) : List Text :=
  match settingsFile with
  | .ok (some bytes) =>
    match Encoding.readStrict bytes with
    | .ok t => SettingsFile.mentioned t
    | .error _ => []
  | .ok none | .error _ => []

/-- The path of the packaged world, which lies in a folder beside the program. -/
def packagedPath : IO Path := do
  let program := Path.ofText (← IO.appPath).toString.toList
  return { program with
    steps := program.steps.dropLast ++ ["data".toList, World.packagedName.toList] }

/-- What the command line finds on this system. -/
def readHost (arguments : List Text) : IO Host := do
  let depth := (Path.ofText (← IO.currentDir).toString.toList).steps.length
  let settingsFile ← readSettings (settingsPlaces depth)
  let environment ←
    readEnvironment (Settings.limitName :: Settings.worldName :: namesIn settingsFile)
  let host : Host :=
    { environment, settings := fun environment => settingsFile.bind (environment.withFile ·)
      file := fun _ => .error .missing, packaged := ← packagedPath }
  match Command.settle host, Command.read arguments with
  | .ok settled, .ok command =>
    let found ← readFile (command.worldPath host settled)
    return { host with file := fun _ => found }
  | _, _ => return host

end CommandPrompt

open CommandPrompt in
/-- Runs the command line. -/
def main (arguments : List String) : IO UInt32 := do
  let arguments := arguments.map String.toList
  match Command.run (← readHost arguments) arguments with
  | .ok printed =>
    IO.print (String.ofList printed.output)
    for line in printed.message do
      IO.eprintln line
    return printed.code.toUInt32
  | .error crash =>
    IO.eprintln crash.message
    return 1
