import CommandPrompt.Number.Decimal

/-!
# JSON values

Documents are JSON values. Whole numbers and numbers with a fraction or an exponent are kept apart,
because a reader may have to tell them apart, and an object keeps the order of its keys.
-/

namespace CommandPrompt

/-- A JSON value. -/
inductive Json where
  | null
  | bool (b : Bool)
  | int (n : Int)
  | decimal (d : Decimal)
  | infinite (negative : Bool)
  | nan
  | string (t : Text)
  | array (items : List Json)
  | object (fields : List (Text × Json))

namespace Json

/-- The value of a string literal. -/
def ofString (s : String) : Json := string s.toList

/-- The object with the given fields. -/
def ofFields (fields : List (String × Json)) : Json :=
  object (fields.map fun (name, value) => (name.toList, value))

/-- The value of a field of an object. -/
def get? (fields : List (Text × Json)) (name : String) : Option Json :=
  (fields.find? (·.1 == name.toList)).map (·.2)

/-- The fields with one added; a key that is there already keeps its place and gets the new value.
-/
def put (fields : List (Text × Json)) (key : Text) (value : Json) : List (Text × Json) :=
  if fields.any (·.1 == key) then
    fields.map fun field => if field.1 == key then (key, value) else field
  else fields ++ [(key, value)]

/-- Whether a value counts as nothing: null, false, zero, or empty. -/
def isNothing : Json → Bool
  | null => true
  | bool b => !b
  | int n => n == 0
  | decimal d => d.toDouble == .finite 0
  | infinite _ | nan => false
  | string t => t.isEmpty
  | array items => items.isEmpty
  | object fields => fields.isEmpty

/-- The name of the type of a value, as messages give it. -/
def typeName : Json → String
  | null => "NoneType"
  | bool _ => "bool"
  | int _ => "int"
  | decimal _ | infinite _ | nan => "float"
  | string _ => "str"
  | array _ => "list"
  | object _ => "dict"

end Json

/-- The types of two values between which there is no order. -/
structure Incomparable where
  left : String
  right : String
  deriving DecidableEq, Repr

/-- The attempt to compare the values, in words. -/
def Incomparable.message (types : Incomparable) : String :=
  "'<' not supported between instances of '" ++ types.left ++ "' and '" ++ types.right ++ "'"

end CommandPrompt
