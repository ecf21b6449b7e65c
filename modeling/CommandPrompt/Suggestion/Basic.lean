import CommandPrompt.Phrase.Group
import CommandPrompt.Suggestion.Score

/-!
# Suggestions

Which words are worth offering after the groups understood so far, how they are ranked, and which
of them are shown. The best suggestion comes last.
-/

namespace CommandPrompt

/-- A word that is offered, and how good it is. -/
structure Suggestion where
  /-- The text that the word completes to. -/
  text : Text
  /-- The text that the suggestion is displayed with. -/
  display : Text
  score : Extended
  word : Word
  deriving DecidableEq

namespace Suggestion

/-- The suggestion of a word, with its score. -/
def ofWord (word : Word) (score : Extended) : Suggestion :=
  { text := word.spelling, display := word.display, score, word }

/-! ### Candidates -/

/-- Whether a verb is still asked for: while only the verb is there and a new word is begun, or
nothing was typed at all. -/
def asksForVerb (groups : List Group) (isFresh : Bool) : Bool :=
  match groups with
  | [] => true
  | [first] => isFresh || first.words.isEmpty
  | _ => false

/-- The words that can come next. An unfinished noun phrase asks for what its nouns leave unsaid;
after anything else but the verb alone a new noun phrase can begin. -/
def candidates (catalog : Catalog) (groups : List Group) (isFresh : Bool) : List Word :=
  if asksForVerb groups isFresh then Word.distinctKeys catalog.verbWords
  else match groups.getLast?.map Group.incomplete with
    | some (first :: others) =>
      Word.distinctKeys (Word.sort ((first :: others).flatMap Cluster.unmentionedWords))
    | _ => Word.distinctKeys catalog.nounStarters

/-! ### Ranking -/

/-- The candidates for a new word: all alike but for a small bias towards later ones. -/
def rankFresh (round : Rounding) (words : List Word) : List Suggestion :=
  words.zipIdx.map fun (word, index) =>
    .ofWord word (.finite (round (1 + round (index / 1000 : Rat))))

/-- The candidates that have something in common with the letters typed so far. -/
def rankPartial (round : Rounding) (typed : Text) :
    List Word → Except ScoreFault (List Suggestion)
  | [] => .ok []
  | word :: rest => do
    let score ← Score.best round typed word.spelling
    let others ← rankPartial round typed rest
    return if .finite 0 < score then .ofWord word score :: others else others

/-! ### Selection -/

/-- The last `k` of some items: while there are more, the first one goes. -/
def trim {α : Type} (k : Nat) : List α → List α
  | [] => []
  | item :: rest => if k < rest.length + 1 then trim k rest else item :: rest

/-- The `k` best of some items, in ascending order of their scores. The sort is stable, and what has
to go is dropped at the front, so of equal items the earlier one goes first. -/
def selectTop {α : Type} (score : α → Extended) (k : Int) (items : List α) : List α :=
  if k ≤ 0 || items.isEmpty then []
  else trim k.toNat (items.mergeSort fun a b => decide (score a ≤ score b))

end Suggestion

end CommandPrompt
