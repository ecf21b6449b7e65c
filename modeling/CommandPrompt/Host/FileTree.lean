import CommandPrompt.Host.Path

/-!
# File trees

A tree of files under the working folder, in which paths are looked up. What lies outside the
working folder is not part of the tree: there are folders above it, and no files.
-/

namespace CommandPrompt

/-- Files, each by the folders and the name that lead to it, with its bytes. -/
structure FileTree where
  files : List (List Text × List UInt8) := []

namespace FileTree

/-- The greatest number of bytes in a name. -/
def maxName : Nat := 255

/-- The greatest number of bytes in a path. -/
def maxPath : Nat := 4095

/-- The number of bytes that a text takes. -/
def byteSize (t : Text) : Nat := (String.ofList t).utf8ByteSize

/-- Whether a folder is in the tree. -/
def hasFolder (tree : FileTree) (folder : List Text) : Bool :=
  folder.isEmpty || tree.files.any fun (place, _) =>
    folder.isPrefixOf place && folder.length < place.length

/-- Where a walk through folders has come to. -/
inductive Place where
  /-- A folder of the tree. -/
  | inside (folder : List Text)
  /-- A folder that the working folder lies in. -/
  | above
  deriving DecidableEq, Repr

/-- Looks steps up from a place. -/
def walk (tree : FileTree) (place : Place) : List Text → Except FileProblem (List UInt8)
  | [] => .error .isFolder
  | step :: rest =>
    if step = ['.', '.'] then
      match place with
      | .inside [] | .above => tree.walk .above rest
      | .inside folder => tree.walk (.inside folder.dropLast) rest
    else if maxName < byteSize step then .error .nameTooLong
    else match place with
      | .above => .error .missing
      | .inside folder =>
        let next := folder ++ [step]
        match tree.files.find? (·.1 == next) with
        | some (_, bytes) => if rest.isEmpty then .ok bytes else .error .notFolder
        | none => if tree.hasFolder next then tree.walk (.inside next) rest else .error .missing

/-- The bytes of the file at a path. -/
def read (tree : FileTree) (path : Path) : Except FileProblem (List UInt8) :=
  if path.toText.contains (Char.ofNat 0) then .error .zeroCharacter
  else if maxPath < byteSize path.toText then .error .nameTooLong
  else match path.root with
    | .workingFolder => tree.walk (.inside []) path.steps
    | .slash | .doubleSlash => tree.walk .above path.steps

end FileTree

end CommandPrompt
