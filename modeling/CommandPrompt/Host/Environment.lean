import CommandPrompt.Text.Basic

/-!
# Environments

Settings come from named values that the surrounding system hands to a program. A file of settings
can add values, line by line; a value that is there already is not replaced. A line gives a name and
a value; the value may stand between quotes, may refer to other values, and may be followed by a
comment. A line that makes no sense is passed over.
-/

namespace CommandPrompt

/-- Named values. -/
abbrev Environment := List (Text × Text)

/-- The value with a name. -/
def Environment.get? (environment : Environment) (name : Text) : Option Text :=
  (environment.find? (·.1 == name)).map (·.2)

/-- Why a value cannot be put into an environment. -/
inductive EnvironmentFault where
  | illegalName
  | zeroCharacter
  deriving DecidableEq, Repr

/-- The fault in words. -/
def EnvironmentFault.message : EnvironmentFault → String
  | .illegalName => "illegal environment variable name"
  | .zeroCharacter => "embedded null byte"

namespace SettingsFile

/-- A line of a settings file: a name, and its value if it has one. -/
structure Entry where
  name : Text
  value : Option Text
  deriving DecidableEq, Repr

/-! ### Pieces of lines -/

/-- A blank that does not end a line. -/
def isGap (c : Char) : Bool := isBlank c && c != '\n' && c != '\r'

/-- The text without gaps at its start. -/
def skipGap (t : Text) : Text := t.dropWhile isGap

/-- Whether a character goes on with a line. -/
def isOnLine (c : Char) : Bool := c != '\n' && c != '\r'

/-- Every way to end a line written as one character. -/
def unifyLines : Text → Text
  | [] => []
  | '\r' :: '\n' :: rest => '\n' :: unifyLines rest
  | '\r' :: rest => '\n' :: unifyLines rest
  | c :: rest => c :: unifyLines rest

/-- The text behind the end of the line. -/
def skipLine (t : Text) : Text := (t.dropWhile isOnLine).drop 1

/-- The text without a leading word `export` that something follows on the line. -/
def skipExport (t : Text) : Text :=
  let word := "export".toList
  if word.isPrefixOf t && (t.drop word.length).head?.any isGap then skipGap (t.drop word.length)
  else t

/-- The end of a quoted text, whose quote is the given one: the text up to the first quote without a
backslash before it, and the text behind that quote. -/
def plainEnd? (quote : Char) (previous : Char) : Text → Option (Text × Text)
  | [] => none
  | c :: rest =>
    if c = quote ∧ previous ≠ '\\' then some ([], rest)
    else (plainEnd? quote c rest).map fun (body, after) => (c :: body, after)

/-- The text up to the last of the given quotes, and the text behind it. -/
def lastEnd? (quote : Char) (t : Text) : Option (Text × Text) :=
  if t.contains quote then
    let after := (t.reverse.takeWhile (· != quote)).reverse
    some (t.take (t.length - after.length - 1), after)
  else none

/-- The text between quotes and the text behind it. The opening quote was read. A quote behind a
backslash ends the text only if no other does. -/
def quotedBody? (quote : Char) (t : Text) : Option (Text × Text) :=
  (plainEnd? quote quote t).or (lastEnd? quote t)

/-- The characters that a backslash and another character stand for between quotes. -/
def escape? (quote c : Char) : Option Char :=
  if c = '\\' ∨ c = '\'' then some c
  else if quote = '\'' then none
  else match c with
    | '"' => some '"'
    | 'a' => some (Char.ofNat 7)
    | 'b' => some (Char.ofNat 8)
    | 'f' => some (Char.ofNat 12)
    | 'n' => some '\n'
    | 'r' => some '\r'
    | 't' => some '\t'
    | 'v' => some (Char.ofNat 11)
    | _ => none

/-- The text that was meant between quotes. -/
def unescape (quote : Char) : Text → Text
  | [] => []
  | '\\' :: c :: rest =>
    match escape? quote c with
    | some d => d :: unescape quote rest
    | none => '\\' :: unescape quote (c :: rest)
  | c :: rest => c :: unescape quote rest

/-- A value without quotes: a comment behind a blank is left out, and so are blanks at the end. -/
def beforeComment : Text → Text
  | [] => []
  | c :: rest =>
    if isBlank c && (rest.dropWhile isBlank).head? == some '#' then []
    else c :: beforeComment rest

/-! ### Lines -/

/-- The name at the start of a line and the text behind it. A comment has no name. -/
def name? : Text → Option (Option Text × Text)
  | '#' :: rest => some (none, '#' :: rest)
  | '\'' :: rest =>
    let name := rest.takeWhile (· != '\'')
    match rest.drop name.length with
    | _ :: after => if name.isEmpty then none else some (some name, after)
    | [] => none
  | t =>
    let name := t.takeWhile fun c => c != '=' && c != '#' && !isBlank c
    if name.isEmpty then none else some (some name, t.drop name.length)

/-- The value at the start of a text and the text behind it. -/
def value? : Text → Option (Text × Text)
  | '\'' :: rest => (quotedBody? '\'' rest).map fun (body, after) => (unescape '\'' body, after)
  | '"' :: rest => (quotedBody? '"' rest).map fun (body, after) => (unescape '"' body, after)
  | t => some ((beforeComment (t.takeWhile isOnLine)).stripEnd, t.dropWhile isOnLine)

/-- The text behind a comment, if there is one, and behind the end of the line; nothing if something
else is left on the line. -/
def lineEnd? (t : Text) : Option Text :=
  let afterComment := match skipGap t with
    | '#' :: rest => rest.dropWhile isOnLine
    | _ => t
  match skipGap afterComment with
  | [] => some []
  | c :: rest => if isOnLine c then none else some rest

/-- What is read at the start of a line, and the text to go on with: behind the line, even where
nothing could be read. -/
def entry (t : Text) : Option Entry × Text :=
  let t := skipExport t
  match name? t with
  | none => (none, skipLine t)
  | some (name, afterName) =>
    let afterName := skipGap afterName
    match afterName with
    | '=' :: rest =>
      let written := skipGap rest
      match value? written with
      | none => (none, skipLine written)
      | some (value, after) =>
        match lineEnd? after with
        | none => (none, skipLine after)
        | some next => (name.map (⟨·, some value⟩), next)
    | _ =>
      match lineEnd? afterName with
      | none => (none, skipLine afterName)
      | some next => (name.map (⟨·, none⟩), next)

/-- The entries of a text. Every entry takes a character at least, so the length of the text bounds
their number. -/
def entriesFrom : (bound : Nat) → Text → List Entry
  | 0, _ => []
  | bound + 1, t =>
    match t.dropWhile isBlank with
    | [] => []
    | start =>
      let (found, rest) := entry start
      found.toList ++ entriesFrom bound rest

/-- The entries of a settings file. -/
def entries (t : Text) : List Entry :=
  let t := unifyLines t
  entriesFrom t.length t

/-! ### References -/

/-- A reference to a value, behind its dollar sign and bracket: the name, the text to use where
there is no such value, and the text behind the reference. -/
def reference? (t : Text) : Option (Text × Text × Text) :=
  let name := t.takeWhile fun c => c != '\x7d' && c != ':'
  match t.drop name.length with
  | ':' :: '-' :: rest =>
    let default := rest.takeWhile (· != '\x7d')
    match rest.drop default.length with
    | _ :: after => some (name, default, after)
    | [] => none
  | '\x7d' :: after => some (name, [], after)
  | _ => none

/-- The text with its references replaced. The bound is at least the length of the text. -/
def expand (look : Text → Option Text) : (bound : Nat) → Text → Text
  | 0, t => t
  | _, [] => []
  | bound + 1, c :: rest =>
    let found := match c, rest with
      | '$', '\x7b' :: inner => reference? inner
      | _, _ => none
    match found with
    | some (name, default, after) => (look name).getD default ++ expand look bound after
    | none => c :: expand look bound rest

/-- The names that the references of a text mention. The bound is at least its length. -/
def references : (bound : Nat) → Text → List Text
  | 0, _ | _, [] => []
  | bound + 1, c :: rest =>
    let found := match c, rest with
      | '$', '\x7b' :: inner => reference? inner
      | _, _ => none
    match found with
    | some (name, _, after) => name :: references bound after
    | none => references bound rest

/-- Every name that a settings file gives a value to or mentions in one. -/
def mentioned (t : Text) : List Text :=
  (entries t).flatMap fun entry =>
    entry.name :: (entry.value.map fun v => references v.length v).getD []

/-- The values that entries give, references replaced: a reference means the value in the
environment, or else the one that was given before. A name that is given again keeps its place. -/
def resolve (environment : Environment) (found : List Entry) : List Entry :=
  found.foldl (fun given entry =>
    let look := fun name =>
      match environment.get? name with
      | some value => some value
      | none => (given.find? (·.name == name)).map fun earlier => earlier.value.getD []
    let resolved := { entry with value := entry.value.map fun v => expand look v.length v }
    if given.any (·.name == entry.name) then
      given.map fun earlier => if earlier.name == entry.name then resolved else earlier
    else given ++ [resolved]) []

end SettingsFile

namespace Environment

/-- The environment with one more value. -/
def add (environment : Environment) (name value : Text) : Except EnvironmentFault Environment :=
  if name.contains (Char.ofNat 0) || value.contains (Char.ofNat 0) then .error .zeroCharacter
  else if name.contains '=' then .error .illegalName
  else .ok (environment ++ [(name, value)])

/-- The environment with the values of a settings file that it does not have yet. -/
def withSettings (environment : Environment) (settings : Text) :
    Except EnvironmentFault Environment :=
  (SettingsFile.resolve environment (SettingsFile.entries settings)).foldlM (fun grown entry =>
    match entry.value with
    | none => .ok grown
    | some value =>
      if (grown.get? entry.name).isSome then .ok grown else grown.add entry.name value) environment

end Environment

end CommandPrompt
