import CommandPrompt.Line
import CommandPrompt.Phrase.Gate
import CommandPrompt.Phrase.Weaver
import CommandPrompt.Suggestion.Basic
import CommandPrompt.Suggestion.Limit

/-!
# Contexts

A context is what a line at the prompt amounts to: the groups that its settled words make up, and
the suggestions for the word under the caret. Only the words before the working word are read; the
working word is what the suggestions complete.
-/

namespace CommandPrompt

/-- What a line amounts to. -/
structure Context where
  groups : List Group
  suggestions : List Suggestion
  settled : Text := []
  workingWord : Text := []
  deriving DecidableEq

/-- A number that has no value. -/
inductive ArithmeticFault where
  /-- A score has no value. -/
  | score (fault : ScoreFault)
  /-- The number of suggestions has no value. -/
  | limit (fault : LimitFault)
  deriving DecidableEq, Repr

/-- The fault in words. -/
def ArithmeticFault.message : ArithmeticFault → String
  | score fault => fault.message
  | limit fault => fault.message

/-- Why a line has no context. -/
inductive ContextFault where
  /-- The settled words make no command. -/
  | misread (misreading : Misreading)
  /-- A number that is needed has no value. -/
  | arithmetic (fault : ArithmeticFault)
  deriving DecidableEq, Repr

namespace Context

/-- Whether a working word asks for all words that can come next. -/
def isFresh (workingWord : Text) : Bool := workingWord.isEmpty || workingWord == Line.newWord

/-- The groups that a text makes up. -/
def readGroups (catalog : Catalog) (t : Text) : Except Misreading (List Group) := do
  let matched ← AmbiguityGroup.read catalog.words t
  let gated ← AmbiguityGroup.gate matched
  Weaver.weave catalog gated

/-- The candidates after some groups, ranked by a working word. -/
def rank (round : Rounding) (catalog : Catalog) (groups : List Group) (workingWord : Text) :
    Except ScoreFault (List Suggestion) :=
  let words := Suggestion.candidates catalog groups (isFresh workingWord)
  if isFresh workingWord then .ok (Suggestion.rankFresh round words)
  else Suggestion.rankPartial round workingWord words

/-- The settled part of a clean line, where there is a working word. -/
def settledPart (line : Line) : Text :=
  let span := line.workingSpan
  if (line.workingWord span).isEmpty then [] else line.settled span

/-- The context of a clean line. -/
def ofClean (round : Rounding) (catalog : Catalog) (limit : Limit) (line : Line) :
    Except ContextFault Context := do
  let workingWord := line.workingWord line.workingSpan
  let settled := settledPart line
  let groups ← (readGroups catalog settled).mapError .misread
  let ranked ← (rank round catalog groups workingWord).mapError (.arithmetic ∘ .score)
  let count ← limit.count?.mapError (.arithmetic ∘ .limit)
  return { groups, settled, workingWord,
           suggestions := Suggestion.selectTop Suggestion.score count ranked }

/-- The context of any line. -/
def ofLine (round : Rounding) (catalog : Catalog) (limit : Limit) (line : Line) :
    Except ContextFault Context :=
  ofClean round catalog limit line.clean

/-- The verbs that the command can begin with. -/
def verbs (context : Context) : List Word :=
  match context.groups with
  | [] => []
  | first :: _ => first.words

/-- The noun phrases of the command. -/
def nounPhrases (context : Context) : List Group := context.groups.filter Group.isNounPhrase

/-- The context on several lines: every group, then the suggestions. -/
def report (context : Context) : Text :=
  let suggestions := "suggestions: ".toList ++
    Text.join [',', ' '] (context.suggestions.map Suggestion.display)
  Text.join ['\n'] (context.groups.map Group.line ++ [suggestions])

end Context

end CommandPrompt
