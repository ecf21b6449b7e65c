import CommandPrompt.Json.Shown
import CommandPrompt.World.Basic

/-!
# Loosely typed drafts

A caller may describe an entity by values of any type. Values are used in order up to the first one
that is of no use where it stands, and what came before it is checked first: so a word that cannot
be typed is told rather than a wrong value behind it.
-/

namespace CommandPrompt

/-- A value of a type that is of no use where it stands. -/
inductive WrongKind where
  /-- A text was needed. -/
  | notText (typeName : String)
  /-- A series of values was needed. -/
  | notSeries (typeName : String)
  /-- A series of arguments was needed. -/
  | notArguments (typeName : String)
  /-- A piece of a word was needed. -/
  | notPiece (typeName : String)
  /-- A word was needed in one piece. -/
  | notWord (typeName : String)
  /-- Something with a length was needed. -/
  | noLength (typeName : String)
  /-- A path was needed. -/
  | notPath (typeName : String)
  deriving DecidableEq, Repr

/-- The fault in words. -/
def WrongKind.message : WrongKind → String
  | .notText typeName => "'" ++ typeName ++ "' object has no attribute 'strip'"
  | .notSeries typeName => "'" ++ typeName ++ "' object is not iterable"
  | .notArguments typeName => "Value after * must be an iterable, not " ++ typeName
  | .notPiece typeName => "'" ++ typeName ++ "' object has no attribute 'isspace'"
  | .notWord typeName => "'" ++ typeName ++ "' object has no attribute 'lower'"
  | .noLength typeName => "object of type '" ++ typeName ++ "' has no len()"
  | .notPath typeName => "expected str, bytes or os.PathLike object, not " ++ typeName

/-- The values that a value consists of: the items of an array, the characters of a text, the keys
of an object. -/
def Json.series? : Json → Option (List Json)
  | array items => some items
  | string t => some (t.map fun c => string [c])
  | object fields => some (fields.map fun (key, _) => string key)
  | _ => none

/-- Why values make no entity. -/
inductive LooseFault where
  | refused (refusal : Refusal)
  | wrongKind (fault : WrongKind)
  deriving DecidableEq, Repr

/-- A draft that was read as far as its values are of use, and the fault of the first that is not.
-/
abbrev Loose (α : Type) := α × Option LooseFault

namespace Loose

/-- Whether a piece can be part of a typable word: a typable character, or several letters and
digits. -/
def isTypablePiece : Text → Bool
  | [] => false
  | [c] => isTypableChar c
  | piece => piece.all Char.isAlphanum

/-- What is wrong with a word that was given in pieces. They are looked at like the characters of a
text; if all of them can be typed, the word is refused for not being in one piece. -/
def faultOfPieces (word : Json) (afterBlank : Bool) : List Json → LooseFault
  | [] => .wrongKind (.notWord word.typeName)
  | .string piece :: rest =>
    let blank := !piece.isEmpty && piece.isAllBlank
    if (blank && afterBlank) || !isTypablePiece piece then .refused (.untypable word.shown)
    else faultOfPieces word blank rest
  | value :: _ => .wrongKind (.notPiece value.typeName)

/-- A word of a verb: nothing stands for the empty word. -/
def word (value : Json) : Loose Text :=
  match value with
  | .string t => (t, none)
  | value =>
    if value.isNothing then ([], none)
    else match value.series? with
      | some pieces => ([], some (faultOfPieces value true pieces))
      | none => ([], some (.wrongKind (.notSeries value.typeName)))

/-- The values up to the first one that is of no use. -/
def upTo (read : Json → Loose Text) : List Json → Loose (List Text)
  | [] => ([], none)
  | value :: rest =>
    match read value with
    | (t, none) => let (ts, fault) := upTo read rest; (t :: ts, fault)
    | (_, some fault) => ([], some fault)

/-- The words of a series. -/
def words (value : Json) : Loose (List Text) :=
  match value.series? with
  | some values => upTo word values
  | none => ([], some (.wrongKind (.notSeries value.typeName)))

/-- An adjective: nothing but a text will do. -/
def adjective (value : Json) : Loose Text :=
  match value with
  | .string t => (t, none)
  | value => ([], some (.wrongKind (.notText value.typeName)))

/-- The name that an entity is to have; nothing stands for no name. -/
def name (value : Json) : Except WrongKind Text :=
  match value with
  | .string t => .ok t
  | value => if value.isNothing then .ok [] else .error (.notText value.typeName)

/-- The beginning of a word, which is compared with some words. Nothing stands for the empty text,
and so does a series longer than each of the words, as it agrees with none of them. -/
def fragment (words : List Text) (value : Json) : Except WrongKind Text :=
  match value with
  | .string t => .ok t
  | value =>
    if value.isNothing || words.isEmpty then .ok []
    else match value.series? with
      | some pieces =>
        if words.any fun word => pieces.length ≤ word.length then .error (.notWord value.typeName)
        else .ok []
      | none => .error (.noLength value.typeName)

/-- What becomes of a draft, given what becomes of the part that was read. -/
def conclude {α : Type} (fault : Option LooseFault) : Except Refusal α → Except LooseFault α
  | .error refusal => .error (.refused refusal)
  | .ok entity => match fault with
    | some fault => .error fault
    | none => .ok entity

end Loose

/-- A verb described by values. -/
structure LooseVerb where
  spelling : Json
  synonyms : Json := .array []
  shortcut : Json := .string []
  prepositions : Json := .array []

/-- The draft of a verb as far as its values are of use. -/
def LooseVerb.draft (verb : LooseVerb) : Except WrongKind (Loose VerbDraft) := do
  let spelling ← Loose.name verb.spelling
  let (synonyms, fault) := Loose.words verb.synonyms
  -- What comes behind a fault is not looked at.
  if fault.isSome then return ({ spelling, synonyms }, fault)
  let (shortcut, fault) := Loose.word verb.shortcut
  if fault.isSome then return ({ spelling, synonyms }, fault)
  let (prepositions, fault) := Loose.words verb.prepositions
  return ({ spelling, synonyms, shortcut, prepositions }, fault)

/-- The verb that values describe. -/
def Verb.ofLoose? (ref : Int) (verb : LooseVerb) : Except LooseFault Verb :=
  match verb.draft with
  | .error fault => .error (.wrongKind fault)
  | .ok (draft, fault) => Loose.conclude fault (Verb.ofDraft? ref draft)

/-- A noun described by values. -/
structure LooseNoun where
  names : Json
  adjectives : List Json := []

/-- The noun that two values describe, the second of which has to be a series. -/
def LooseNoun.ofValues? (names adjectives : Json) : Except WrongKind LooseNoun :=
  match adjectives.series? with
  | some values => .ok { names, adjectives := values }
  | none => .error (.notArguments adjectives.typeName)

/-- The draft of a noun as far as its values are of use. -/
def LooseNoun.draft (noun : LooseNoun) : Except WrongKind (Loose NounDraft) := do
  let names ← Loose.name noun.names
  let (adjectives, fault) := Loose.upTo Loose.adjective noun.adjectives
  return ({ names, adjectives }, fault)

/-- The noun that values describe. -/
def Noun.ofLoose? (ref : Int) (noun : LooseNoun) : Except LooseFault Noun :=
  match noun.draft with
  | .error fault => .error (.wrongKind fault)
  | .ok (draft, fault) => Loose.conclude fault (Noun.ofDraft? ref draft)

namespace World

/-- Adds the verb that values describe, if they describe one; a number is used up in any case. -/
def addLooseVerb (world : World) (verb : LooseVerb) : World × Except LooseFault Verb :=
  let issued := world.issued + 1
  match Verb.ofLoose? issued verb with
  | .ok verb => ({ world with issued, verbs := world.verbs ++ [verb] }, .ok verb)
  | .error fault => ({ world with issued }, .error fault)

/-- Adds the noun that values describe, if they describe one; a number is used up in any case. -/
def addLooseNoun (world : World) (noun : LooseNoun) : World × Except LooseFault Noun :=
  let issued := world.issued + 1
  match Noun.ofLoose? issued noun with
  | .ok noun => ({ world with issued, nouns := world.nouns ++ [noun] }, .ok noun)
  | .error fault => ({ world with issued }, .error fault)

end World

end CommandPrompt
