import CommandPrompt.Json.Basic
import CommandPrompt.Text.Quoted

/-!
# Writing JSON

A value is written on one line, with a space behind every comma and colon, or on many lines with two
spaces for every level. Only quotes, backslashes and controls are escaped.
-/

namespace CommandPrompt.Json

/-- A character as it stands in a string. -/
def escapeChar (c : Char) : Text :=
  if c = '"' then ['\\', '"']
  else if c = '\\' then ['\\', '\\']
  else if c = '\n' then ['\\', 'n']
  else if c = '\r' then ['\\', 'r']
  else if c = '\t' then ['\\', 't']
  else if c.toNat = 8 then ['\\', 'b']
  else if c.toNat = 12 then ['\\', 'f']
  else if c.toNat < 32 then '\\' :: 'u' :: Text.hexDigits 4 c.toNat
  else [c]

/-- A text as a string. -/
def writeString (t : Text) : Text := '"' :: t.flatMap escapeChar ++ ['"']

/-- How the members of arrays and objects are set apart. -/
inductive Layout where
  | oneLine
  | indented
  deriving DecidableEq, Repr

namespace Layout

/-- The start of a line at a level. -/
def newLine (level : Nat) : Text := '\n' :: List.replicate (2 * level) ' '

/-- What stands before the first member at a level, and behind the last one of the level below. -/
def edge : Layout → Nat → Text
  | oneLine, _ => []
  | indented, level => newLine level

/-- What stands between two members at a level. -/
def separator : Layout → Nat → Text
  | oneLine, _ => [',', ' ']
  | indented, level => ',' :: newLine level

/-- The members at a level between brackets. -/
def enclose (layout : Layout) (level : Nat) (opening closing : Char) (members : List Text) : Text :=
  if members.isEmpty then [opening, closing]
  else opening :: layout.edge (level + 1) ++ Text.join (layout.separator (level + 1)) members ++
    layout.edge level ++ [closing]

end Layout

mutual

/-- A value at a level. -/
def writeAt (layout : Layout) (level : Nat) : Json → Text
  | null => "null".toList
  | bool b => if b then "true".toList else "false".toList
  | int n => (toString n).toList
  | decimal d => d.render
  | infinite negative => if negative then "-Infinity".toList else "Infinity".toList
  | nan => "NaN".toList
  | string t => writeString t
  | array items => layout.enclose level '[' ']' (writeItems layout (level + 1) items)
  | object fields => layout.enclose level '{' '}' (writeFields layout (level + 1) fields)

/-- The items of an array at a level. -/
def writeItems (layout : Layout) (level : Nat) : List Json → List Text
  | [] => []
  | item :: rest => writeAt layout level item :: writeItems layout level rest

/-- The fields of an object at a level. -/
def writeFields (layout : Layout) (level : Nat) : List (Text × Json) → List Text
  | [] => []
  | (key, value) :: rest =>
    (writeString key ++ [':', ' '] ++ writeAt layout level value) :: writeFields layout level rest

end

/-- A value as text. -/
def write (layout : Layout) (value : Json) : Text := writeAt layout 0 value

end CommandPrompt.Json
