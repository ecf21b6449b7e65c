import CommandPrompt.Host.Path
import CommandPrompt.Number.Integer

/-!
# Switches and usage

The switches that a command line can hold, the values that they set, and what can be wrong with the
arguments of a command line.
-/

namespace CommandPrompt.Command

/-- A switch of the command line. -/
inductive Switch where
  | help
  | verbose
  | caret
  | world
  | maxSuggestions
  | format
  | pretty
  deriving DecidableEq, Repr

namespace Switch

/-- The ways to write a switch. -/
def spellings : Switch → List String
  | help => ["-h", "--help"]
  | verbose => ["--verbose"]
  | caret => ["--caret"]
  | world => ["--world"]
  | maxSuggestions => ["--max-suggestions"]
  | format => ["--format"]
  | pretty => ["--pretty"]

/-- The switch as it is named in messages. -/
def label (switch : Switch) : String := "/".intercalate switch.spellings

/-- Whether a value has to follow the switch. -/
def takesValue : Switch → Bool
  | caret | world | maxSuggestions | format => true
  | help | verbose | pretty => false

end Switch

/-- How a report is written. -/
inductive Format where
  | plain
  | json
  deriving DecidableEq, Repr

/-- The formats, each with its name. -/
def Format.named : List (String × Format) := [("text", .plain), ("json", .json)]

/-- What the switches of a command line say of a number. -/
inductive NumberSetting where
  /-- The switch of the number is not used. -/
  | absent
  /-- The switch is used with an empty list for a value, see `AttachedDashes.dropped`. -/
  | empty
  | given (n : Int)
  deriving DecidableEq, Repr

/-- What the switches of a command line set. -/
structure Options where
  verbose : Bool := false
  caret : NumberSetting := .absent
  world : Option Path := none
  maxSuggestions : NumberSetting := .absent
  format : Format := .plain
  pretty : Bool := false
  deriving DecidableEq, Repr

/-- What can be wrong with arguments. -/
inductive Misuse where
  /-- An operand is missing. -/
  | required (operand : String)
  /-- There are arguments that nothing asks for. -/
  | unrecognized (arguments : List Text)
  /-- An argument can be short for several switches. -/
  | ambiguous (argument : Text) (spellings : List String)
  /-- A switch has no value behind it. -/
  | expectedValue (switch : Switch)
  /-- A switch is given a value that it does not take. -/
  | ignoredValue (switch : Switch) (value : Text)
  /-- The value of a switch is no integer. -/
  | notInteger (switch : Switch) (value : Text)
  /-- A value is none of those to choose from. -/
  | invalidChoice (name : String) (value : Text) (choices : List String)
  deriving DecidableEq, Repr

namespace Misuse

/-- A text between quotes. -/
def shown (t : Text) : String := String.ofList t.quoted

/-- The misuse in words. -/
def message : Misuse → String
  | required operand => "the following arguments are required: " ++ operand
  | unrecognized arguments =>
    "unrecognized arguments: " ++ " ".intercalate (arguments.map String.ofList)
  | ambiguous argument spellings =>
    "ambiguous option: " ++ String.ofList argument ++ " could match " ++ ", ".intercalate spellings
  | expectedValue switch => "argument " ++ switch.label ++ ": expected one argument"
  | ignoredValue switch value =>
    "argument " ++ switch.label ++ ": ignored explicit argument " ++ shown value
  | notInteger switch value =>
    "argument " ++ switch.label ++ ": invalid int value: " ++ shown value
  | invalidChoice name value choices =>
    "argument " ++ name ++ ": invalid choice: " ++ shown value ++ " (choose from " ++
      ", ".intercalate (choices.map fun choice => shown choice.toList) ++ ")"

end Misuse

/-- Why the reading of arguments stops early. -/
inductive Stop where
  /-- Help was asked for. -/
  | help
  | misuse (problem : Misuse)
  deriving DecidableEq, Repr

/-- The integer that the value of a switch stands for. -/
def integer? (switch : Switch) (value : Text) : Except Stop Int :=
  match Integer.parse? value with
  | some n => .ok n
  | none => .error (.misuse (.notInteger switch value))

/-- The options with one switch set. Only switches that take a value look at it. -/
def Options.set (options : Options) (switch : Switch) (value : Text) : Except Stop Options :=
  match switch with
  | .help => .error .help
  | .verbose => .ok { options with verbose := true }
  | .pretty => .ok { options with pretty := true }
  | .world => .ok { options with world := some (Path.ofText value) }
  | .caret => (integer? .caret value).map fun n => { options with caret := .given n }
  | .maxSuggestions =>
    (integer? .maxSuggestions value).map fun n => { options with maxSuggestions := .given n }
  | .format =>
    match Format.named.find? (·.1.toList == value) with
    | some (_, format) => .ok { options with format }
    | none =>
      .error (.misuse (.invalidChoice Switch.format.label value (Format.named.map Prod.fst)))

/-- What becomes of two dashes that stand behind the equals sign of a switch. -/
inductive AttachedDashes where
  /-- They are a value like any other. -/
  | kept
  /-- They are left out, so that the switch is given an empty list. Readers of arguments used to do
  so. -/
  | dropped
  deriving DecidableEq, Repr

/-- The options with one switch set to an empty list. No world is named then, and the format is none
of those with a name, so the lines of text remain; only a number cannot do without a value. -/
def Options.setEmpty (options : Options) (switch : Switch) : Options :=
  match switch with
  | .caret => { options with caret := .empty }
  | .maxSuggestions => { options with maxSuggestions := .empty }
  | .world => { options with world := none }
  | .format => { options with format := .plain }
  | .help | .verbose | .pretty => options

end CommandPrompt.Command
