import CommandPrompt.World.Word

/-!
# Worlds

A world holds every verb and noun that a player can refer to. Entities are numbered from one in the
order in which they are added; a draft that is refused uses up its number all the same.
-/

namespace CommandPrompt

/-- The verbs and nouns of a game, and how many numbers have been given out. -/
structure World where
  title : Text := []
  author : Text := []
  verbs : List Verb := []
  nouns : List Noun := []
  issued : Nat := 0
  deriving DecidableEq, Repr

namespace World

/-- Adds the verb that a draft describes, if it is not refused. -/
def addVerb (world : World) (draft : VerbDraft) : World × Except Refusal Verb :=
  let issued := world.issued + 1
  match Verb.ofDraft? issued draft with
  | .ok verb => ({ world with issued, verbs := world.verbs ++ [verb] }, .ok verb)
  | .error refusal => ({ world with issued }, .error refusal)

/-- Adds the noun that a draft describes, if it is not refused. -/
def addNoun (world : World) (draft : NounDraft) : World × Except Refusal Noun :=
  let issued := world.issued + 1
  match Noun.ofDraft? issued draft with
  | .ok noun => ({ world with issued, nouns := world.nouns ++ [noun] }, .ok noun)
  | .error refusal => ({ world with issued }, .error refusal)

/-- The words of every entity, in the order in which they are gathered. -/
def words (world : World) : List Word :=
  world.verbs.flatMap Verb.words ++ world.nouns.flatMap Noun.words

/-- Every word of the world once, in order. -/
def vocabulary (world : World) : List Word := Word.sort (Word.distinct world.words)

/-- Adds all verbs and then all nouns, up to the first that is refused. -/
def addAll (world : World) (verbs : List VerbDraft) (nouns : List NounDraft) :
    Except Refusal World := do
  let withVerbs ← verbs.foldlM (fun (w : World) draft =>
    let (w, result) := w.addVerb draft
    result.map fun _ => w) world
  nouns.foldlM (fun (w : World) draft =>
    let (w, result) := w.addNoun draft
    result.map fun _ => w) withVerbs

end World

end CommandPrompt
