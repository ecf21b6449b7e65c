import CommandPrompt.Host.Environment
import CommandPrompt.Host.Path
import CommandPrompt.Number.Integer
import CommandPrompt.Text.Encoding

/-!
# Settings

Two values of the environment change how the prompt works: how many suggestions are shown, and which
world is used. A number that cannot be read, or that is less than one, leaves the usual number.
-/

namespace CommandPrompt

/-- Why a settings file cannot be used. -/
inductive SettingsFault where
  /-- The file is no text. -/
  | decoding (fault : DecodeFault)
  /-- One of its values cannot be put into the environment. -/
  | environment (fault : EnvironmentFault)
  /-- The file cannot be looked for, or cannot be read. -/
  | other (message : String)
  deriving DecidableEq, Repr

/-- The fault in words. -/
def SettingsFault.message : SettingsFault → String
  | decoding fault => fault.message
  | environment fault => fault.message
  | other message => message

/-- The environment with the values of the settings file with the given bytes, if there is one. -/
def Environment.withFile (bytes : Option (List UInt8)) (environment : Environment) :
    Except SettingsFault Environment :=
  match bytes with
  | none => .ok environment
  | some bytes => do
    let settings ← (Encoding.readStrict bytes).mapError .decoding
    (environment.withSettings settings).mapError .environment

namespace Settings

/-- The name of the value that says how many suggestions are shown. -/
def limitName : Text := "ADVENTURE_MAX_SUGGESTIONS".toList

/-- The name of the value that says which world is used. -/
def worldName : Text := "ADVENTURE_WORLD".toList

/-- The usual number of suggestions. -/
def usualLimit : Int := 5

/-- The number of suggestions to show. -/
def limit (environment : Environment) : Int :=
  match (environment.get? limitName).bind fun t => Integer.parse? t.strip with
  | some n => if n < 1 then usualLimit else n
  | none => usualLimit

/-- The path of the world that is used where no other is named: that of the packaged world, unless
the environment names one. -/
def defaultWorld (packaged : Path) (environment : Environment) : Path :=
  match environment.get? worldName with
  | none | some [] => packaged
  | some t => Path.ofText t

end Settings

end CommandPrompt
