import CommandPrompt.Text.LowerCase
import CommandPrompt.Text.Quoted
import CommandPrompt.Text.Typable

/-!
# Entities

What a player can refer to: verbs, which are actions, and nouns, which are things. An entity is made
from a draft. It is refused if it has no name, or if a player could not type one of its words.
-/

namespace CommandPrompt

/-- Why a draft makes no entity. -/
inductive Refusal where
  /-- A verb was given no spelling. -/
  | blankVerb
  /-- A noun was given no name. -/
  | blankNoun
  /-- A word cannot be typed at the prompt. -/
  | untypable (word : Text)
  deriving DecidableEq, Repr

/-- The refusal in words. -/
def Refusal.message : Refusal → String
  | .blankVerb => "A verb spelling cannot be blank!"
  | .blankNoun => "A noun name cannot be blank!"
  | .untypable word => "String \"" ++ String.ofList word ++ "\" is not player-typable!"

/-- A text, unless it cannot be typed. -/
def Text.typable? (t : Text) : Except Refusal Text :=
  if t.isTypable then .ok t else .error (.untypable t)

/-- A text in lower case, unless it cannot be typed. -/
def Text.lowerTypable? (t : Text) : Except Refusal Text := t.typable?.map Text.lower

/-! ### Verbs -/

/-- A verb as it is described before it is checked. -/
structure VerbDraft where
  spelling : Text
  synonyms : List Text := []
  shortcut : Text := []
  prepositions : List Text := []
  deriving DecidableEq, Repr

/-- An action: its spelling and synonyms, perhaps a shortcut, and the prepositions that lead to its
objects. All of them are in lower case. -/
structure Verb where
  ref : Int
  spelling : Text
  synonyms : List Text
  shortcut : Option Text
  prepositions : List Text
  deriving DecidableEq, Repr

namespace Verb

/-- The verb that a draft describes. Empty synonyms and prepositions are passed over. -/
def ofDraft? (ref : Int) (draft : VerbDraft) : Except Refusal Verb := do
  if draft.spelling.isAllBlank then throw .blankVerb
  let spelling ← draft.spelling.lowerTypable?
  let synonyms ← (draft.synonyms.filter (!·.isEmpty)).mapM Text.lowerTypable?
  let shortcut ←
    if draft.shortcut.isEmpty then pure none else some <$> draft.shortcut.lowerTypable?
  let prepositions ← (draft.prepositions.filter (!·.isEmpty)).mapM Text.lowerTypable?
  return { ref, spelling, synonyms, shortcut, prepositions }

/-- Whether the verb takes objects by a preposition. -/
def isTransitive (verb : Verb) : Bool := !verb.prepositions.isEmpty

/-- The verb as it is shown to whoever builds a world. -/
def summary (verb : Verb) : String :=
  "Verb(" ++ String.ofList verb.spelling.quoted ++ ", ref_id=" ++ toString verb.ref ++ ")"

end Verb

/-! ### Nouns -/

/-- A noun as it is described before it is checked: its names in one text, and its adjectives. -/
structure NounDraft where
  names : Text
  adjectives : List Text := []
  deriving DecidableEq, Repr

/-- A thing: its first name, its other names, and the adjectives that describe it. -/
structure Noun where
  ref : Int
  primary : Text
  alternatives : List Text
  adjectives : List Text
  deriving DecidableEq, Repr

namespace Noun

/-- The noun that a draft describes. Blank adjectives are passed over. -/
def ofDraft? (ref : Int) (draft : NounDraft) : Except Refusal Noun := do
  match draft.names.words with
  | [] => throw .blankNoun
  | first :: others =>
    let primary ← first.typable?
    let alternatives ← others.mapM Text.typable?
    let adjectives ← (draft.adjectives.filter (!·.isAllBlank)).mapM Text.typable?
    return { ref, primary, alternatives, adjectives }

/-- All names of the noun, the first one first. -/
def names (noun : Noun) : List Text := noun.primary :: noun.alternatives

/-- The noun with everything that describes it. -/
def describe (noun : Noun) : Text := Text.unwords (noun.adjectives ++ [noun.primary])

/-- The noun as it is shown to whoever builds a world. -/
def summary (noun : Noun) : String :=
  "Noun(" ++ String.ofList noun.describe.quoted ++ ", ref_id=" ++ toString noun.ref ++ ")"

end Noun

end CommandPrompt
