import CommandPrompt.Text.Quoted

/-!
# Paths

A path names a file or a folder by the folders that lead to it. Written with needless slashes or
dots, it is still the same path; a step to the folder above is kept.
-/

namespace CommandPrompt

/-- Where a path starts. -/
inductive PathRoot where
  | workingFolder
  | slash
  /-- Two slashes exactly, which a system may read in a way of its own. -/
  | doubleSlash
  deriving DecidableEq, Repr

/-- The root of a path, and the steps from there. -/
structure Path where
  root : PathRoot
  steps : List Text
  deriving DecidableEq, Repr

namespace Path

/-- The parts of a text between slashes, empty ones included. -/
def parts : Text → List Text
  | [] => [[]]
  | c :: cs =>
    if c = '/' then [] :: parts cs
    else match parts cs with
      | [] => [[c]]
      | part :: rest => (c :: part) :: rest

/-- The root that a text starts from. -/
def rootOf : Text → PathRoot
  | '/' :: '/' :: '/' :: _ => .slash
  | '/' :: '/' :: _ => .doubleSlash
  | '/' :: _ => .slash
  | _ => .workingFolder

/-- The path that a text names. -/
def ofText (t : Text) : Path :=
  ⟨rootOf t, (parts t).filter fun part => !part.isEmpty && part != ['.']⟩

/-- The path as text. -/
def toText (path : Path) : Text :=
  let steps := Text.join ['/'] path.steps
  match path.root with
  | .slash => '/' :: steps
  | .doubleSlash => '/' :: '/' :: steps
  | .workingFolder => if path.steps.isEmpty then ['.'] else steps

end Path

/-- Why no file can be read at a path. -/
inductive FileProblem where
  | missing
  | isFolder
  | notFolder
  | nameTooLong
  | zeroCharacter
  /-- Anything else that the system has against it, in the words of the system. -/
  | other (message : String)
  deriving DecidableEq, Repr

namespace FileProblem

/-- The problem with a path in words. -/
def message (problem : FileProblem) (path : Path) : String :=
  let shown := String.ofList path.toText.quoted
  match problem with
  | missing => "[Errno 2] No such file or directory: " ++ shown
  | isFolder => "[Errno 21] Is a directory: " ++ shown
  | notFolder => "[Errno 20] Not a directory: " ++ shown
  | nameTooLong => "[Errno 36] File name too long: " ++ shown
  | zeroCharacter => "embedded null byte"
  | other message => message

end FileProblem

end CommandPrompt
