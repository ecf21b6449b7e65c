import CommandPrompt.Json.Basic
import CommandPrompt.Text.Quoted

/-!
# Values inside messages

The form in which a value is shown inside a message: texts between quotes as everywhere in messages,
arrays and objects between brackets, and a word for each of the values that have a name.
-/

namespace CommandPrompt.Json

mutual

/-- The value as it is shown inside a message. -/
def shown : Json → Text
  | null => "None".toList
  | bool b => (if b then "True" else "False").toList
  | int n => (toString n).toList
  | decimal d => d.render
  | infinite negative => (if negative then "-inf" else "inf").toList
  | nan => "nan".toList
  | string t => t.quoted
  | array items => '[' :: Text.join [',', ' '] (shownItems items) ++ [']']
  | object fields => '\x7b' :: Text.join [',', ' '] (shownFields fields) ++ ['\x7d']

/-- The items of an array, each as it is shown. -/
def shownItems : List Json → List Text
  | [] => []
  | item :: rest => shown item :: shownItems rest

/-- The fields of an object, each as it is shown. -/
def shownFields : List (Text × Json) → List Text
  | [] => []
  | (name, value) :: rest => (name.quoted ++ [':', ' '] ++ shown value) :: shownFields rest

end

end CommandPrompt.Json
