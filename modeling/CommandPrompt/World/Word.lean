import CommandPrompt.World.Entity

/-!
# Words

A word is a spelling together with what it stands for: a verb, a preposition of a verb, a noun, or
an adjective of a noun. Words that differ only in letter case or in the text they are displayed
with are the same word. Words are ordered by length first, the longest one leading, because that
is the order in which the matcher wants to try them.
-/

namespace CommandPrompt

/-- What part a word plays in a command. -/
inductive PartOfSpeech where
  | verb
  | preposition
  | noun
  | adjective
  deriving DecidableEq, Repr

/-- The name of a part of speech. -/
def PartOfSpeech.name : PartOfSpeech → String
  | .verb => "verb"
  | .preposition => "preposition"
  | .noun => "noun"
  | .adjective => "adjective"

/-- The place of a part of speech among words that are alike otherwise: in order of their names. -/
def PartOfSpeech.rank : PartOfSpeech → Nat
  | .adjective => 0
  | .noun => 1
  | .preposition => 2
  | .verb => 3

/-- What a word stands for. -/
inductive Sense where
  /-- An action. -/
  | verb (verb : Verb)
  /-- The way to the objects of an action. -/
  | preposition (verb : Verb)
  /-- A thing, by one of its names. -/
  | noun (noun : Noun)
  /-- A thing, by one of its adjectives. -/
  | adjective (noun : Noun)
  deriving DecidableEq, Repr

namespace Sense

/-- The part of speech that goes with a sense. -/
def partOfSpeech : Sense → PartOfSpeech
  | verb _ => .verb
  | preposition _ => .preposition
  | noun _ => .noun
  | adjective _ => .adjective

/-- The number of the entity that is meant. -/
def ref : Sense → Int
  | verb v | preposition v => v.ref
  | noun n | adjective n => n.ref

/-- The thing that is meant, unless an action is. -/
def noun? : Sense → Option Noun
  | verb _ | preposition _ => none
  | noun n | adjective n => some n

end Sense

/-- A spelling with what it stands for, and perhaps a display text of its own. -/
structure Word where
  spelling : Text
  sense : Sense
  shownAs : Option Text := none
  deriving DecidableEq, Repr

namespace Word

/-- The text that a word is displayed with: its own, or else its spelling. -/
def display (word : Word) : Text :=
  match word.shownAs with
  | none | some [] => word.spelling
  | some shown => shown

/-- The spelling without regard to letter case. -/
def key (word : Word) : Text := word.spelling.lower

/-- The number of the entity that the word stands for. -/
def ref (word : Word) : Int := word.sense.ref

/-- The part of speech of the word. -/
def partOfSpeech (word : Word) : PartOfSpeech := word.sense.partOfSpeech

/-- The thing that the word names or describes, if it does so. -/
def noun? (word : Word) : Option Noun := word.sense.noun?

/-- Whether the word names or describes a thing. -/
def isNounWord (word : Word) : Bool := word.noun?.isSome

/-- Whether the word is an action. -/
def isVerb (word : Word) : Bool := word.partOfSpeech == .verb

/-- The number of the noun profile that the word belongs to. -/
def profileKey (word : Word) : Option Int := word.noun?.map Noun.ref

/-- Whether two words are the same: spelled alike but for letter case, with one sense. -/
def same (a b : Word) : Bool := a.key == b.key && a.ref == b.ref && a.partOfSpeech == b.partOfSpeech

/-- The order of words: the longer spelling first, then by key, entity and part of speech. -/
def order (a b : Word) : Ordering :=
  (compare b.spelling.length a.spelling.length).then <|
    (Text.order a.key b.key).then <|
      (compare a.ref b.ref).then (compare a.partOfSpeech.rank b.partOfSpeech.rank)

/-- Whether the first word comes before the second. -/
def before (a b : Word) : Bool := order a b == .lt

/-- Whether the first word comes before the second or is the same word. -/
def beforeOrSame (a b : Word) : Bool := before a b || same a b

/-- The words in order; words that are level keep their places. -/
def sort (words : List Word) : List Word := words.mergeSort fun a b => order a b != .gt

/-- The first word of every class of same words, in their order. -/
def distinct (words : List Word) : List Word :=
  words.foldl (fun kept word => if kept.any (same · word) then kept else kept ++ [word]) []

/-- The first word with every key, in their order. -/
def distinctKeys (words : List Word) : List Word :=
  words.foldl (fun kept word => if kept.any (·.key == word.key) then kept else kept ++ [word]) []

end Word

/-! ### The words of an entity -/

/-- The words that a verb is called by: spelling, synonyms, shortcut, and its prepositions. A
shortcut is displayed together with the spelling. -/
def Verb.words (verb : Verb) : List Word :=
  let shortcut := verb.shortcut.toList.map fun shortcut =>
    { spelling := shortcut, sense := .verb verb,
      shownAs := some (shortcut ++ [' ', '('] ++ verb.spelling ++ [')']) : Word }
  (verb.spelling :: verb.synonyms).map (⟨·, .verb verb, none⟩) ++ shortcut ++
    verb.prepositions.map (⟨·, .preposition verb, none⟩)

/-- The words that a noun is called by: its names, then its adjectives. -/
def Noun.words (noun : Noun) : List Word :=
  noun.names.map (⟨·, .noun noun, none⟩) ++ noun.adjectives.map (⟨·, .adjective noun, none⟩)

end CommandPrompt
