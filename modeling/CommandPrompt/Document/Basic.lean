import CommandPrompt.Document.Reading
import CommandPrompt.Text.NormalForm

/-!
# World documents

A world can be described by a JSON document: an object with a title, an author, verbs and nouns. Its
words are brought to normal form before they are used. Words of verbs are put in lower case and
repeated ones dropped; the names of a noun are set apart by single spaces.
-/

namespace CommandPrompt

/-- A world as a document describes it. -/
structure Document where
  title : Text := []
  author : Text := []
  verbs : List VerbDraft := []
  nouns : List NounDraft := []
  deriving DecidableEq, Repr

namespace Document

/-- A text without blanks around it, in normal form. -/
def plain (t : Text) : Text := t.strip.normalForm

/-- A text that is empty or typable. -/
def typable (t : Text) : Reading Text :=
  if t.isEmpty || t.isTypable then .accepted t else .reject (.word (.untypable t))

/-- The text that a value stands for; nothing stands for the empty text. -/
def textOf (value : Json) : Reading Text :=
  match value with
  | .string t => .accepted t
  | value => if value.isNothing then .accepted [] else .brokenOff (.notText value.typeName)

/-- A word of a verb. -/
def verbWord (value : Json) : Reading Text :=
  (textOf value).andThen fun t => typable (plain t).lower

/-- The spelling of a verb, which cannot be blank. -/
def spelling (value : Json) : Reading Text :=
  (verbWord value).andThen fun t =>
    if t.isEmpty then .reject (.word .blankSpelling) else .accepted t

/-- The values in a value that is to hold several; null holds none. -/
def seriesOf (value : Json) : Reading (List Json) :=
  match value with
  | .null => .accepted []
  | value => match value.series? with
    | some values => .accepted values
    | none => .brokenOff (.notSeries value.typeName)

/-- The words of a verb in a value that is to hold several: empty and repeated ones are dropped. -/
def verbWords (value : Json) : Reading (List Text) :=
  (seriesOf value).andThen fun values =>
    (Reading.sequence verbWord values).map fun words => (words.filter (!·.isEmpty)).eraseDups

/-- The names of a noun, of which there has to be one. -/
def names (value : Json) : Reading Text :=
  (textOf value).andThen fun t =>
    let names := Text.unwords (plain t).words
    if names.isEmpty then .reject (.word .blankNames) else typable names

/-- An adjective of a noun, or nothing where the value is blank. -/
def adjective (value : Json) : Reading (Option Text) :=
  (textOf value).andThen fun t =>
    if t.isAllBlank then .accepted none else (typable (plain t)).map some

/-- The adjectives of a noun in a value that is to hold several: blank ones are dropped. -/
def adjectives (value : Json) : Reading (List Text) :=
  (seriesOf value).andThen fun values =>
    (Reading.sequence adjective values).map fun words => words.filterMap id

/-- The description of a verb. -/
def verb (value : Json) : Reading VerbDraft :=
  match value with
  | .object fields =>
    let front := Reading.both (fun spelling synonyms => ({ spelling, synonyms } : VerbDraft))
      (Reading.field fields "spelling" (.reject .missing) spelling)
      (Reading.field fields "synonyms" (.accepted []) verbWords)
    let withShortcut := front.both (fun draft shortcut => { draft with shortcut })
      (Reading.field fields "shortcut" (.accepted []) verbWord)
    withShortcut.both (fun draft prepositions => { draft with prepositions })
      (Reading.field fields "prepositions" (.accepted []) verbWords)
  | _ => .reject (.notEntity "VerbSpec")

/-- The description of a noun. -/
def noun (value : Json) : Reading NounDraft :=
  match value with
  | .object fields =>
    Reading.both (fun names adjectives => { names, adjectives })
      (Reading.field fields "names" (.reject .missing) names)
      (Reading.field fields "adjectives" (.accepted []) adjectives)
  | _ => .reject (.notEntity "NounSpec")

/-- A value that has to be a text. -/
def textOnly (value : Json) : Reading Text :=
  match value with
  | .string t => .accepted t
  | _ => .reject .notText

/-- A value that has to be a list. -/
def list {α : Type} (read : Json → Reading α) (value : Json) : Reading (List α) :=
  match value with
  | .array items => Reading.each read 0 items
  | _ => .reject .notList

/-- The document that the fields of an object make. -/
def ofFields (fields : List (Text × Json)) : Reading Document :=
  let front := Reading.both (fun title author => ({ title, author } : Document))
    (Reading.field fields "title" (.accepted []) textOnly)
    (Reading.field fields "author" (.accepted []) textOnly)
  let withVerbs := front.both (fun document verbs => { document with verbs })
    (Reading.field fields "verbs" (.accepted []) (list verb))
  withVerbs.both (fun document nouns => { document with nouns })
    (Reading.field fields "nouns" (.accepted []) (list noun))

/-- The world that a document describes. -/
def build (document : Document) : Except Refusal World :=
  { title := document.title, author := document.author : World }.addAll document.verbs
    document.nouns

end Document

end CommandPrompt
