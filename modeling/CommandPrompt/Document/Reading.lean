import CommandPrompt.World.Loose

/-!
# Reading documents

A document is read value by value. All its faults are found together, each with the place where it
is, so that they can be mended at once. Only a value of the wrong kind, where a word is prepared,
ends the reading at once.
-/

namespace CommandPrompt

/-- A step into a document. -/
inductive DocumentStep where
  | field (name : String)
  | index (n : Nat)
  deriving DecidableEq, Repr

/-- Why a word or a name cannot be used. -/
inductive WordProblem where
  | blankSpelling
  | blankNames
  | untypable (t : Text)
  deriving DecidableEq, Repr

/-- The problem in words. -/
def WordProblem.message : WordProblem → String
  | .blankSpelling => "verb spelling cannot be blank"
  | .blankNames => "noun names cannot be blank"
  | .untypable t => "\"" ++ String.ofList t ++ "\" is not player-typable"

/-- What is wrong at one place of a document. -/
inductive DocumentProblem where
  /-- A field is not there. -/
  | missing
  /-- A text was needed. -/
  | notText
  /-- A list was needed. -/
  | notList
  /-- The description of an entity was needed. -/
  | notEntity (name : String)
  /-- A word cannot be used. -/
  | word (problem : WordProblem)
  deriving DecidableEq, Repr

namespace DocumentProblem

/-- The name of the kind of problem. -/
def kind : DocumentProblem → String
  | missing => "missing"
  | notText => "string_type"
  | notList => "list_type"
  | notEntity _ => "model_type"
  | word _ => "value_error"

/-- The problem in words. -/
def message : DocumentProblem → String
  | missing => "Field required"
  | notText => "Input should be a valid string"
  | notList => "Input should be a valid list"
  | notEntity name => "Input should be a valid dictionary or instance of " ++ name
  | word problem => "Value error, " ++ problem.message

end DocumentProblem

/-- A problem and its place. -/
structure Finding where
  place : List DocumentStep
  problem : DocumentProblem
  deriving DecidableEq, Repr

/-- What comes of reading a value. -/
inductive Reading (α : Type) where
  | accepted (a : α)
  /-- The value was read through, and this was found. -/
  | rejected (findings : List Finding)
  /-- The reading was broken off. -/
  | brokenOff (fault : WrongKind)
  deriving DecidableEq, Repr

namespace Reading

variable {α β γ : Type}

/-- The reading of a value at which something is wrong. -/
def reject (problem : DocumentProblem) : Reading α := rejected [⟨[], problem⟩]

/-- The reading with the value changed, if it was accepted. -/
def map (f : α → β) : Reading α → Reading β
  | accepted a => accepted (f a)
  | rejected findings => rejected findings
  | brokenOff fault => brokenOff fault

/-- A reading that goes on only if the value was accepted. -/
def andThen (reading : Reading α) (next : α → Reading β) : Reading β :=
  match reading with
  | accepted a => next a
  | rejected findings => rejected findings
  | brokenOff fault => brokenOff fault

/-- Two readings, the second of which takes place unless the first was broken off. -/
def both (f : α → β → γ) : Reading α → Reading β → Reading γ
  | accepted a, accepted b => accepted (f a b)
  | rejected first, rejected second => rejected (first ++ second)
  | rejected first, accepted _ => rejected first
  | accepted _, rejected second => rejected second
  | brokenOff fault, _ => brokenOff fault
  | _, brokenOff fault => brokenOff fault

/-- The reading of a value that is a step into a document. -/
def under (step : DocumentStep) : Reading α → Reading α
  | accepted a => accepted a
  | rejected findings => rejected (findings.map fun f => { f with place := step :: f.place })
  | brokenOff fault => brokenOff fault

/-- Reads values up to the first that is not accepted. -/
def sequence (read : Json → Reading α) : List Json → Reading (List α)
  | [] => accepted []
  | value :: rest => (read value).andThen fun a => (sequence read rest).map (a :: ·)

/-- Reads all values of a list, each at its place; the first one has the given index. -/
def each (read : Json → Reading α) (index : Nat) : List Json → Reading (List α)
  | [] => accepted []
  | value :: rest => both List.cons ((read value).under (.index index)) (each read (index + 1) rest)

/-- Reads a field of an object. Without the field the reading is `absent`. -/
def field (fields : List (Text × Json)) (name : String) (absent : Reading α)
    (read : Json → Reading α) : Reading α :=
  ((Json.get? fields name).elim absent read).under (.field name)

end Reading

end CommandPrompt
