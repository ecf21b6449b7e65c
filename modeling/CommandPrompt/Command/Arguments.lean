import CommandPrompt.Command.Usage
import CommandPrompt.Text.Digit

/-!
# Arguments

How the arguments of a command line are told apart and read from left to right. An argument is a
switch, perhaps shortened and perhaps with a value behind an equals sign, or an operand. Behind two
dashes everything is an operand. Numbers below zero and texts with a space in them are operands,
whatever they start with.
-/

namespace CommandPrompt.Command

/-- What comes behind the switches. -/
structure Operand where
  name : String
  /-- Whether the operand takes everything behind it as well. -/
  takesRest : Bool
  deriving DecidableEq, Repr

/-- The switches and the operand that a command line may hold. -/
structure Grammar where
  program : String
  switches : List Switch
  operand : Option Operand
  dashes : AttachedDashes
  deriving DecidableEq, Repr

/-- What an argument is. -/
inductive Role where
  | operand
  /-- The two dashes behind which everything is an operand. -/
  | dashes
  /-- A switch, with the value that is written in the same argument if there is one. -/
  | switch (switch : Switch) (spelling : String) (attached : Option Text)
  /-- Something like a switch that is not known. -/
  | unknown
  deriving DecidableEq, Repr

namespace Role

/-- Whether the argument is a switch or like one. -/
def isSwitch : Role → Bool
  | switch .. | unknown => true
  | operand | dashes => false

end Role

namespace Grammar

/-- Every way to write a switch, with the switch. -/
def spellings (grammar : Grammar) : List (String × Switch) :=
  grammar.switches.flatMap fun switch => switch.spellings.map (·, switch)

/-- The switch that is written in exactly this way. -/
def switch? (grammar : Grammar) (t : Text) : Option (String × Switch) :=
  grammar.spellings.find? (·.1.toList == t)

/-- The text before the first equals sign, and the text behind it if there is one. -/
def splitEquals (t : Text) : Text × Option Text :=
  let before := t.takeWhile (· != '=')
  match t.drop before.length with
  | _ :: after => (before, some after)
  | [] => (before, none)

/-- The switches that an argument can be short for. -/
def abbreviated (grammar : Grammar) (t : Text) : List Role :=
  if "--".toList.isPrefixOf t then
    let (before, after) := splitEquals t
    (grammar.spellings.filter fun (spelling, _) => before.isPrefixOf spelling.toList).map
      fun (spelling, switch) => .switch switch spelling after
  else
    grammar.spellings.filterMap fun (spelling, switch) =>
      if spelling.toList == t.take 2 then some (.switch switch spelling (some (t.drop 2)))
      else if t.isPrefixOf spelling.toList then some (.switch switch spelling none)
      else none

/-- Whether a text is made of digits of any script. -/
def isDigits (t : Text) : Bool := t.all fun c => (digitValue? c).isSome

/-- Whether a text is a number below zero: a dash, digits, and perhaps a point among them. -/
def isNegative (t : Text) : Bool :=
  let body := if t.getLast? == some '\n' then t.dropLast else t
  match body with
  | '-' :: digits =>
    let whole := digits.takeWhile (· != '.')
    match digits.drop whole.length with
    | [] => !whole.isEmpty && isDigits whole
    | _ :: fraction => isDigits whole && !fraction.isEmpty && isDigits fraction
  | _ => false

/-- What an argument is that starts with a dash and is no switch as it stands. -/
def classifyLong (grammar : Grammar) (t : Text) : Except Misuse Role :=
  match grammar.abbreviated t with
  | [role] => .ok role
  | [] => .ok (if isNegative t || t.contains ' ' then .operand else .unknown)
  | roles => .error (.ambiguous t (roles.filterMap fun role =>
      match role with
      | .switch _ spelling _ => some spelling
      | _ => none))

/-- What an argument is. -/
def classify (grammar : Grammar) (t : Text) : Except Misuse Role :=
  if t.head? != some '-' then .ok .operand
  else match grammar.switch? t with
    | some (spelling, switch) => .ok (.switch switch spelling none)
    | none =>
      if t.length = 1 then .ok .operand
      else match splitEquals t with
        | (before, some after) =>
          match grammar.switch? before with
          | some (spelling, switch) => .ok (.switch switch spelling (some after))
          | none => grammar.classifyLong t
        | (_, none) => grammar.classifyLong t

/-- The arguments with what they are. -/
def classifyAll (grammar : Grammar) : List Text → Except Misuse (List (Text × Role))
  | [] => .ok []
  | t :: rest =>
    if t = "--".toList then .ok ((t, .dashes) :: rest.map (·, .operand))
    else do
      let role ← grammar.classify t
      let others ← grammar.classifyAll rest
      return (t, role) :: others

end Grammar

/-! ### Reading from left to right -/

/-- What was read so far. -/
structure Scan where
  options : Options := {}
  /-- The operand with what it takes. -/
  operand : Option (List Text) := none
  /-- Arguments that nothing asked for. -/
  extras : List Text := []
  deriving DecidableEq, Repr

/-- The number of arguments that an operand takes at the start of some: two dashes before and behind
it go with it. -/
def Operand.size (operand : Operand) (arguments : List (Text × Role)) : Nat :=
  let before := (arguments.takeWhile (·.2 == .dashes)).length
  match arguments.drop before with
  | (_, .operand) :: rest =>
    if operand.takesRest then before + 1 + rest.length
    else before + 1 + (rest.takeWhile (·.2 == .dashes)).length
  | _ => 0

/-- What an operand is given: all it takes, or the one argument besides two dashes. -/
def Operand.given (operand : Operand) (taken : List Text) : List Text :=
  if operand.takesRest then taken else taken.erase "--".toList

/-- What comes of letters written in one argument with the letter that asks for help. They have to
be that letter again and again; anything else is a value that it does not take. -/
def helpLetters : Text → Stop
  | ['h'] => .help
  | 'h' :: c :: rest => helpLetters (c :: rest)
  | t => .misuse (.ignoredValue .help t)

/-- Sets a switch that has a value in its own argument. -/
def Options.setAttached (options : Options) (dashes : AttachedDashes) (switch : Switch)
    (spelling : String) (value : Text) : Except Stop Options :=
  if switch.takesValue then
    if dashes = .dropped ∧ value = "--".toList then .ok (options.setEmpty switch)
    else options.set switch value
  else if spelling == "-h" then .error (helpLetters value)
  else .error (.misuse (.ignoredValue switch value))

/-- Takes the operand at the start of some arguments, if it is still to come. -/
def Scan.takeOperand (grammar : Grammar) (scan : Scan) (arguments : List (Text × Role)) :
    Scan × Nat :=
  match grammar.operand, scan.operand with
  | some operand, none =>
    match operand.size arguments with
    | 0 => (scan, 0)
    | size =>
      let taken := (arguments.take size).map (·.1)
      ({ scan with operand := some (operand.given taken) }, size)
  | _, _ => (scan, 0)

/-- Reads arguments. Each step takes an argument at least, so the number of arguments bounds the
number of steps. -/
def Scan.run (grammar : Grammar) : (bound : Nat) → Scan → List (Text × Role) → Except Stop Scan
  | 0, scan, _ => .ok scan
  | bound + 1, scan, arguments =>
    match arguments with
    | [] => .ok scan
    | (t, .unknown) :: rest => run grammar bound { scan with extras := scan.extras ++ [t] } rest
    | (_, .switch switch spelling (some attached)) :: rest => do
      let options ← scan.options.setAttached grammar.dashes switch spelling attached
      run grammar bound { scan with options } rest
    | (_, .switch switch _ none) :: rest =>
      if switch.takesValue then
        match rest with
        | (value, .operand) :: rest => do
          let options ← scan.options.set switch value
          run grammar bound { scan with options } rest
        | _ => .error (.misuse (.expectedValue switch))
      else do
        let options ← scan.options.set switch []
        run grammar bound { scan with options } rest
    | arguments =>
      match scan.takeOperand grammar arguments with
      | (scan, 0) =>
        let skipped := arguments.takeWhile (!·.2.isSwitch)
        run grammar bound { scan with extras := scan.extras ++ skipped.map (·.1) }
          (arguments.drop skipped.length)
      | (scan, size) => run grammar bound scan (arguments.drop size)

/-- Reads the arguments of a command line by a grammar. -/
def Grammar.scan (grammar : Grammar) (arguments : List Text) : Except Stop Scan := do
  let classified ← (grammar.classifyAll arguments).mapError .misuse
  Scan.run grammar (classified.length + 1) {} classified

end CommandPrompt.Command
