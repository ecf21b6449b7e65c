import CommandPrompt.Command.Basic
import CommandPrompt.Command.Report
import CommandPrompt.Document.Load
import CommandPrompt.Host.Settings

/-!
# Running commands

A command line is run against a host: the values of its environment, its settings file, and its
files. It prints and ends with a code: zero if all is well, one if the line was not understood, and
two for any other failure. Only failures that a command does not expect break it off.
-/

namespace CommandPrompt

/-- What a command line finds around it. -/
structure Host where
  environment : Environment
  /-- Adds the values of the settings file to an environment. Finding and reading the file is not
  part of a command. -/
  settings : Environment → Except SettingsFault Environment := .ok
  /-- The bytes of the file at a path. -/
  file : Path → Except FileProblem (List UInt8)
  /-- The path of the packaged world. -/
  packaged : Path
  /-- How deeply the values of a world file may be nested. -/
  nesting : Json.Nesting := .usual

/-- What a command line prints, and the code that it ends with. -/
structure Printed where
  code : Nat
  output : Text := []
  /-- The line that says why there is no output. Other lines, which log what was done, are left
  out. -/
  message : Option String := none
  deriving DecidableEq, Repr

/-- Why a command line is broken off. -/
inductive Crash where
  /-- The settings file cannot be used. -/
  | settings (fault : SettingsFault)
  /-- The world at a path fails in a way that is not expected. -/
  | load (path : Path) (fault : LoadFault)
  /-- A number has no value. -/
  | arithmetic (fault : ArithmeticFault)
  /-- A number is compared with an empty list that was given for one. -/
  | incomparable (types : Incomparable)
  deriving DecidableEq, Repr

/-- The crash in words. -/
def Crash.message : Crash → String
  | settings fault => fault.message
  | load path fault => fault.message path
  | arithmetic fault => fault.message
  | incomparable types => types.message

/-- Whether a command reports a fault rather than being broken off by it. -/
def LoadFault.isExpected : LoadFault → Bool
  | .file .missing | .file .zeroCharacter => true
  | .file _ | .wrongKind _ | .json ⟨.tooDeep _, _, _, _⟩ => false
  | .encoding _ | .json _ | .notObject | .invalid _ | .refused _ => true

namespace Command

/-- A line of errors, and the code for failures. -/
def failed (message : String) : Printed := { code := 2, message := some message }

/-- What is printed where arguments are misused. Where help is asked for nothing is wrong; the help
itself is left out. -/
def usage : UsageFault → Printed
  | .help => { code := 0 }
  | .misuse program problem => failed (program ++ ": error: " ++ problem.message)

/-- The path of the world that a command works with. -/
def worldPath (host : Host) (environment : Environment) (command : Command) : Path :=
  command.options.world.getD (Settings.defaultWorld host.packaged environment)

/-- Loads a world, or prints why there is none. -/
def withWorld (host : Host) (path : Path) (next : World → Except Crash Printed) :
    Except Crash Printed :=
  match World.load host.nesting (host.file path) with
  | .ok world => next world
  | .error fault =>
    if fault.isExpected then
      .ok (failed ("Could not load world " ++ String.ofList path.toText ++ ": " ++
        fault.message path))
    else .error (.load path fault)

/-- The number that the switches give, if they give one. An empty list cannot be used for it. -/
def NumberSetting.number? (types : Incomparable) : NumberSetting → Except Crash (Option Int)
  | absent => .ok none
  | empty => .error (.incomparable types)
  | given n => .ok (some n)

/-- Runs a command. The limit is looked at before the world is loaded, and the caret behind that. -/
def execute (host : Host) (environment : Environment) (command : Command) :
    Except Crash Printed :=
  let path := command.worldPath host environment
  match command with
  | .vocabulary _ => withWorld host path fun world =>
      .ok { code := 0, output := (vocabularyReport world).flatMap (· ++ ['\n']) }
  | .prompt withGroups line options => do
    let limit ← options.maxSuggestions.number? ⟨"list", "int"⟩
    if limit.any (· < 1) then return failed "--max-suggestions must be at least 1."
    withWorld host path fun world => do
      let caret ← options.caret.number? ⟨"int", "list"⟩
      let session : Session := { world, limit := .whole (limit.getD (Settings.limit environment)) }
      let answer ← (session.suggest (.withCaret line caret)).2.mapError .arithmetic
      return { code := exitCode answer, output := report withGroups options answer ++ ['\n'] }

/-- The environment of a host with the values of its settings file. -/
def settle (host : Host) : Except Crash Environment :=
  (host.settings host.environment).mapError .settings

/-- Runs a command line, whose arguments are read in some way. -/
def runBy (dashes : AttachedDashes) (host : Host) (arguments : List Text) :
    Except Crash Printed := do
  let environment ← settle host
  match readBy dashes arguments with
  | .ok command => execute host environment command
  | .error fault => return usage fault

/-- Runs a command line. -/
def run (host : Host) (arguments : List Text) : Except Crash Printed := runBy .kept host arguments

end Command

end CommandPrompt
