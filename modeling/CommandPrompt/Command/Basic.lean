import CommandPrompt.Command.Arguments

/-!
# Commands

A command line names one of three commands: `suggest` and `inspect` take a line of text,
`vocabulary` lists the words of a world. Each command has switches of its own.
-/

namespace CommandPrompt

/-- What a command line asks for. -/
inductive Command where
  /-- Suggestions for a text, with the groups that it makes up if `withGroups` is set. -/
  | prompt (withGroups : Bool) (line : Text) (options : Command.Options)
  /-- The words of a world. -/
  | vocabulary (options : Command.Options)
  deriving DecidableEq, Repr

namespace Command

/-- The switches of a command. -/
def options : Command → Options
  | prompt _ _ options | vocabulary options => options

/-- Why a command line asks for nothing. -/
inductive UsageFault where
  | help
  /-- The arguments of a program or of one of its commands are misused. -/
  | misuse (program : String) (problem : Misuse)
  deriving DecidableEq, Repr

/-- The name of the program. -/
def programName : String := "adventure-prompt"

/-- The arguments before a command. -/
def mainGrammar (dashes : AttachedDashes) : Grammar :=
  { program := programName, switches := [.help, .verbose],
    operand := some { name := "command", takesRest := true }, dashes }

/-- The arguments of a command that takes a text. -/
def promptGrammar (dashes : AttachedDashes) (name : String) : Grammar :=
  { program := programName ++ " " ++ name,
    switches := [.help, .caret, .world, .maxSuggestions, .format, .pretty],
    operand := some { name := "text", takesRest := false }, dashes }

/-- The arguments of the command that lists words. -/
def vocabularyGrammar (dashes : AttachedDashes) : Grammar :=
  { program := programName ++ " vocabulary", switches := [.help, .world], operand := none, dashes }

/-- The names of the commands. -/
def names : List String := ["suggest", "inspect", "vocabulary"]

/-- Reads arguments, and tells the program that a fault belongs to. -/
def scanFor (grammar : Grammar) (arguments : List Text) : Except UsageFault Scan :=
  (grammar.scan arguments).mapError fun stop =>
    match stop with
    | .help => .help
    | .misuse problem => .misuse grammar.program problem

/-- The arguments of a command that takes a text, and those that nothing asked for. -/
def readPrompt (dashes : AttachedDashes) (withGroups : Bool) (name : String)
    (arguments : List Text) : Except UsageFault (Command × List Text) := do
  let grammar := promptGrammar dashes name
  let scan ← scanFor grammar arguments
  match scan.operand with
  | some (line :: _) => return (.prompt withGroups line scan.options, scan.extras)
  | _ => throw (.misuse grammar.program (.required "text"))

/-- The command with a name, and the arguments that nothing asked for. -/
def readNamed (dashes : AttachedDashes) (name : Text) (arguments : List Text) :
    Except UsageFault (Command × List Text) :=
  if name = "suggest".toList then readPrompt dashes false "suggest" arguments
  else if name = "inspect".toList then readPrompt dashes true "inspect" arguments
  else if name = "vocabulary".toList then do
    let scan ← scanFor (vocabularyGrammar dashes) arguments
    return (.vocabulary scan.options, scan.extras)
  else throw (.misuse programName (.invalidChoice "command" name names))

/-- The command that a command line asks for, to a reader of its arguments. -/
def readBy (dashes : AttachedDashes) (arguments : List Text) : Except UsageFault Command := do
  let scan ← scanFor (mainGrammar dashes) arguments
  match scan.operand with
  | some (name :: rest) =>
    let (command, extras) ← readNamed dashes name rest
    match scan.extras ++ extras with
    | [] => return command
    | unrecognized => throw (.misuse programName (.unrecognized unrecognized))
  | _ => throw (.misuse programName (.required "command"))

/-- The command that a command line asks for. -/
def read (arguments : List Text) : Except UsageFault Command := readBy .kept arguments

end Command

end CommandPrompt
