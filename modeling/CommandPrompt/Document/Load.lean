import CommandPrompt.Document.Basic
import CommandPrompt.Host.Path
import CommandPrompt.Json.Reader
import CommandPrompt.Text.Encoding

/-!
# Loading worlds

A world is loaded from the bytes of a file: they are read as text, the text as JSON, the value as a
document, and the document is built. Each of these steps can fail in its own way.
-/

namespace CommandPrompt

/-- Why no world could be loaded. -/
inductive LoadFault where
  /-- No bytes could be read. -/
  | file (problem : FileProblem)
  /-- The bytes are no text. -/
  | encoding (fault : DecodeFault)
  /-- The text is no JSON. -/
  | json (fault : Json.ReadFault)
  /-- The value is no object. -/
  | notObject
  /-- The object describes no world. -/
  | invalid (findings : List Finding)
  /-- The reading was broken off at a value of the wrong kind. -/
  | wrongKind (fault : WrongKind)
  /-- The world refuses an entity of the document. -/
  | refused (refusal : Refusal)
  deriving DecidableEq, Repr

namespace LoadFault

/-- The fault with the file at a path in words. What was found in an invalid object is not listed.
-/
def message (path : Path) : LoadFault → String
  | file problem => problem.message path
  | encoding fault => fault.message
  | json fault => fault.message
  | notObject => "World file " ++ String.ofList path.toText ++ " must contain a JSON object"
  | invalid _ => "Invalid world definition in " ++ String.ofList path.toText
  | wrongKind fault => fault.message
  | refused refusal => refusal.message

end LoadFault

namespace World

/-- The world that a JSON value describes. -/
def ofJson (value : Json) : Except LoadFault World :=
  match value with
  | .object fields =>
    match Document.ofFields fields with
    | .accepted document => document.build.mapError .refused
    | .rejected findings => .error (.invalid findings)
    | .brokenOff fault => .error (.wrongKind fault)
  | _ => .error .notObject

/-- The world that a file with the given bytes describes. -/
def ofBytes (nesting : Json.Nesting) (bytes : List UInt8) : Except LoadFault World := do
  let written ← (Encoding.readAny bytes).mapError .encoding
  let value ← (Json.read nesting written).mapError .json
  ofJson value

/-- The world in a file that was looked up. -/
def load (nesting : Json.Nesting) (file : Except FileProblem (List UInt8)) :
    Except LoadFault World := do
  let bytes ← file.mapError .file
  ofBytes nesting bytes

end World

end CommandPrompt
