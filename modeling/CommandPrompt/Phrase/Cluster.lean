import CommandPrompt.World.Catalog

/-!
# Clusters

A cluster follows one noun through one noun phrase. It remembers which words of the noun were
mentioned, and keeps a mark for every word of the phrase: set if that word fits the noun. A noun is
consistent with the phrase, and its cluster has a streak, as long as every mark is set.

A ledger keeps the clusters of all phrases, one for every noun and phrase.
-/

namespace CommandPrompt

/-- One noun inside one noun phrase. -/
structure Cluster where
  profile : Profile
  /-- Which phrase this is about. -/
  phrase : Int
  marks : List Bool := []
  /-- The words mentioned so far, each with its key, in the order of their first mention. -/
  mentioned : List (Text × Word) := []
  /-- Whether the noun was called by one of its names. -/
  isComplete : Bool := false
  deriving DecidableEq, Repr

/-- A mark was to be set before the first one. -/
inductive MarkFault where
  | beforeFirst
  deriving DecidableEq, Repr

/-- The fault in words. -/
def MarkFault.message : MarkFault → String
  | .beforeFirst => "list assignment index out of range"

/-- The marks with the one at a position set or cleared. Marks that are missing before it are added
and left cleared. -/
def Marks.put (marks : List Bool) (position : Nat) (hit : Bool) : List Bool :=
  (marks ++ List.replicate (position + 1 - marks.length) false).set position hit

/-- The marks with one of them set or cleared, at a position that may count from the end. -/
def Marks.putAt? (marks : List Bool) (position : Int) (hit : Bool) : Except MarkFault (List Bool) :=
  if 0 ≤ position then .ok (Marks.put marks position.toNat hit)
  else if 0 ≤ position + marks.length then
    .ok (marks.set (position + marks.length).toNat hit)
  else .error .beforeFirst

namespace Cluster

/-- The number of the noun. -/
def key (cluster : Cluster) : Int := cluster.profile.key

/-- Whether a key was mentioned. -/
def hasMentioned (cluster : Cluster) (key : Text) : Bool := cluster.mentioned.any (·.1 == key)

/-- The words of the noun that were not mentioned, one for every key. -/
def unmentioned (cluster : Cluster) : List Word :=
  (Word.distinctKeys cluster.profile.words).filter fun word => !cluster.hasMentioned word.key

/-- The words of the noun that were not mentioned, in order. -/
def unmentionedWords (cluster : Cluster) : List Word := Word.sort cluster.unmentioned

/-- The words that were mentioned, in order. -/
def mentionedWords (cluster : Cluster) : List Word := Word.sort (cluster.mentioned.map (·.2))

/-- Whether a word is spelled like one of the noun's, or like one mentioned before. -/
def isRelevantTo (cluster : Cluster) (word : Word) : Bool :=
  cluster.profile.words.any (·.key == word.key) || cluster.hasMentioned word.key

/-- Whether every word of the phrase so far fits the noun. -/
def hasStreak (cluster : Cluster) : Bool := cluster.marks.all id

/-- The cluster after a word was mentioned. The noun's own word of that spelling is remembered, or
the word itself if the noun has none. -/
def mention (cluster : Cluster) (word : Word) : Cluster :=
  if cluster.hasMentioned word.key then cluster
  else
    let own := (cluster.profile.words.find? (·.key == word.key)).getD word
    { cluster with mentioned := cluster.mentioned ++ [(word.key, own)] }

/-- The cluster with the mark at a position set or cleared. -/
def mark (cluster : Cluster) (position : Nat) (hit : Bool) : Cluster :=
  { cluster with marks := Marks.put cluster.marks position hit }

/-- What a cluster learns from a word at a position of its phrase: the word is mentioned if it fits
the noun and missed otherwise, and a name of the noun completes it. -/
def learn (cluster : Cluster) (word : Word) (position : Nat) : Cluster :=
  let cluster :=
    if cluster.isRelevantTo word then (cluster.mention word).mark position true
    else cluster.mark position false
  if cluster.profile.isNamedBy word then { cluster with isComplete := true } else cluster

/-- The marks as a line of signs. -/
def markSigns (cluster : Cluster) : Text := cluster.marks.map fun hit => if hit then 'X' else '.'

/-- The marks and the mentioned words. -/
def summary (cluster : Cluster) : Text :=
  cluster.markSigns ++ [' ', '|', ' '] ++
    Text.join [',', ' '] (cluster.mentionedWords.map Word.spelling)

end Cluster

/-- The clusters of all phrases, in the order in which they were opened. -/
structure Ledger where
  clusters : List Cluster := []
  deriving DecidableEq, Repr

namespace Ledger

/-- The number of clusters. -/
def size (ledger : Ledger) : Nat := ledger.clusters.length

/-- Whether a cluster is the one of a noun in a phrase. -/
def isAbout (key phrase : Int) (cluster : Cluster) : Bool :=
  cluster.key == key && cluster.phrase == phrase

/-- The cluster of a noun in a phrase, if it was opened. -/
def get? (ledger : Ledger) (key phrase : Int) : Option Cluster :=
  ledger.clusters.find? (isAbout key phrase)

/-- The cluster of a noun in a phrase; a new one if it was not opened. -/
def get (ledger : Ledger) (profile : Profile) (phrase : Int) : Cluster :=
  (ledger.get? profile.key phrase).getD { profile := profile, phrase := phrase }

/-- The ledger with the cluster of a noun in a phrase opened. -/
def «open» (ledger : Ledger) (profile : Profile) (phrase : Int) : Ledger :=
  if ledger.clusters.any (isAbout profile.key phrase) then ledger
  else ⟨ledger.clusters ++ [{ profile := profile, phrase := phrase }]⟩

/-- The ledger with the cluster of a noun in a phrase opened and changed. -/
def modify (ledger : Ledger) (profile : Profile) (phrase : Int) (change : Cluster → Cluster) :
    Ledger :=
  ⟨(ledger.open profile phrase).clusters.map fun cluster =>
    if isAbout profile.key phrase cluster then change cluster else cluster⟩

/-- The clusters of a phrase, in the order in which they were opened. -/
def ofPhrase (ledger : Ledger) (phrase : Int) : List Cluster :=
  ledger.clusters.filter (·.phrase == phrase)

/-- The ledger with the mark of a noun in a phrase set or cleared. -/
def mark (ledger : Ledger) (profile : Profile) (phrase position : Int) (hit : Bool) :
    Except MarkFault Ledger := do
  let marks ← Marks.putAt? (ledger.get profile phrase).marks position hit
  return ledger.modify profile phrase ({ · with marks })

/-- The ledger with a word of a noun mentioned in a phrase. -/
def mention (ledger : Ledger) (profile : Profile) (word : Word) (phrase position : Int) :
    Except MarkFault Ledger :=
  (ledger.modify profile phrase (·.mention word)).mark profile phrase position true

/-- The ledger after a word of a phrase was found not to fit a noun. -/
def miss (ledger : Ledger) (profile : Profile) (phrase position : Int) :
    Except MarkFault Ledger :=
  ledger.mark profile phrase position false

end Ledger

end CommandPrompt
