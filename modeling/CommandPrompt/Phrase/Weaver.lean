import CommandPrompt.Phrase.Group
import CommandPrompt.Phrase.Match

/-!
# Weaving

Gated matches are woven into groups. The words of a noun phrase are followed noun by noun: every
noun that a word of the phrase names or describes is tracked from then on, and learns from each
word whether it still fits. A preposition ends the phrase, and so does a name of a tracked noun,
because adjectives come before the noun. At the end only the nouns with a streak are kept.
-/

namespace CommandPrompt

/-- A part of the command that is closed. -/
inductive Segment where
  | preposition (word : Word)
  /-- A noun phrase, by its number in the ledger. -/
  | phrase (index : Nat)
  deriving DecidableEq, Repr

/-- How far the weaving has come. -/
structure Weaver where
  ledger : Ledger := {}
  /-- The number of the open phrase. -/
  phrase : Nat := 0
  /-- How many words the open phrase has had. -/
  streak : Nat := 0
  /-- The nouns tracked in the open phrase. -/
  tracked : List Profile := []
  /-- The parts of the command before the open phrase. -/
  closed : List Segment := []
  deriving DecidableEq, Repr

namespace Weaver

/-- The clusters of the open phrase. -/
def openClusters (weaver : Weaver) : List Cluster := weaver.ledger.ofPhrase weaver.phrase

/-- The parts of the command with the open phrase, if any noun is in it. -/
def segments (weaver : Weaver) : List Segment :=
  if weaver.openClusters.isEmpty then weaver.closed
  else weaver.closed ++ [.phrase weaver.phrase]

/-- Closes the open phrase and opens the next one. -/
def breakPhrase (weaver : Weaver) : Weaver :=
  { weaver with
    phrase := weaver.phrase + 1, streak := 0, tracked := [], closed := weaver.segments }

/-- Takes a group in which a preposition, or another word that is not about nouns, was found. -/
def takePreposition (weaver : Weaver) (group : AmbiguityGroup) : Except Misreading Weaver :=
  let weaver := weaver.breakPhrase
  match group.filter (!·.isNounWord) with
  | [] => .ok weaver
  | [word] => .ok { weaver with closed := weaver.closed ++ [.preposition word] }
  | _ :: second :: _ => .error (.ambiguousPreposition second.spelling)

/-- The tracked nouns with the noun that a word is about. -/
def track (catalog : Catalog) (weaver : Weaver) (word : Word) : Weaver :=
  match catalog.profileFor? word with
  | some profile =>
    if weaver.tracked.any (·.key == profile.key) then weaver
    else { weaver with tracked := weaver.tracked ++ [profile] }
  | none => weaver

/-- Every tracked noun learns from a word. -/
def learn (weaver : Weaver) (word : Word) : Weaver :=
  { weaver with
    ledger := weaver.tracked.foldl (fun ledger profile =>
      ledger.modify profile weaver.phrase (·.learn word weaver.streak)) weaver.ledger }

/-- Tracks the nouns of the words and has the tracked nouns learn, word by word; also tells whether
a word was a name of a noun that was tracked when the word came. -/
def takeWords (catalog : Catalog) (weaver : Weaver) : List Word → Weaver × Bool
  | [] => (weaver, false)
  | word :: rest =>
    let weaver := track catalog weaver word
    -- Nouns that are tracked only from a later word on do not count here.
    let named := weaver.tracked.any (·.isNamedBy word)
    let (weaver, found) := takeWords catalog (weaver.learn word) rest
    (weaver, named || found)

/-- Takes a group of words that are all about nouns. -/
def takeNouns (catalog : Catalog) (weaver : Weaver) (group : AmbiguityGroup) : Weaver :=
  let (weaver, named) := takeWords catalog weaver group
  -- All words of a group stand at one place of the text, so they share one position.
  let weaver := { weaver with streak := weaver.streak + 1 }
  if named then weaver.breakPhrase else weaver

/-- Takes one group behind the verb. -/
def take (catalog : Catalog) (weaver : Weaver) (group : AmbiguityGroup) :
    Except Misreading Weaver :=
  if group.any (!·.isNounWord) then weaver.takePreposition group
  else .ok (takeNouns catalog weaver group)

/-- The group that a part of the command becomes; its place counts the parts behind the verb. -/
def group? (ledger : Ledger) (place : Nat) : Segment → Except Misreading Group
  | .preposition word => .ok (.preposition word)
  | .phrase index =>
    match (ledger.ofPhrase index).filter Cluster.hasStreak with
    | [] => .error (.noConsistentNoun place)
    | surviving => .ok (.nounPhrase surviving)

/-- The groups of the parts of a command, the first of which stands at the given place. -/
def groupsFrom (ledger : Ledger) (place : Nat) : List Segment → Except Misreading (List Group)
  | [] => .ok []
  | segment :: rest => do
    let group ← group? ledger place segment
    let groups ← groupsFrom ledger (place + 1) rest
    return group :: groups

/-- Weaves groups of words into a command, and returns the weaver as it is left. -/
def run (catalog : Catalog) : List AmbiguityGroup → Except Misreading (Weaver × List Group)
  | [] => .ok ({}, [.verb []])
  | verbs :: rest => do
    let weaver ← rest.foldlM (take catalog) {}
    let groups ← groupsFrom weaver.ledger 1 weaver.segments
    return (weaver, .verb verbs :: groups)

/-- Weaves groups of words into a command. -/
def weave (catalog : Catalog) (groups : List AmbiguityGroup) : Except Misreading (List Group) :=
  (run catalog groups).map (·.2)

end Weaver

end CommandPrompt
