import CommandPrompt.Phrase.Cluster

/-!
# Groups

A command that was understood is a row of groups: first the verb, then prepositions and noun
phrases. A noun phrase is described by the clusters of the nouns that fit all of its words.
-/

namespace CommandPrompt

/-- One part of a command. -/
inductive Group where
  /-- The verbs that the first words can stand for. -/
  | verb (words : List Word)
  /-- A preposition. -/
  | preposition (word : Word)
  /-- A noun phrase, by the nouns it can mean. -/
  | nounPhrase (clusters : List Cluster)
  deriving DecidableEq, Repr

namespace Group

/-- The name of the kind of a group. -/
def kind : Group → String
  | verb _ => "verb"
  | preposition _ => "preposition"
  | nounPhrase _ => "noun_phrase"

/-- The words of a group that is no noun phrase. -/
def words : Group → List Word
  | verb words => words
  | preposition word => [word]
  | nounPhrase _ => []

/-- The clusters of a noun phrase. -/
def clusters : Group → List Cluster
  | nounPhrase clusters => clusters
  | _ => []

/-- Whether the group is a noun phrase. -/
def isNounPhrase : Group → Bool
  | nounPhrase _ => true
  | _ => false

/-- The nouns of a phrase that were not called by name yet. -/
def incomplete (group : Group) : List Cluster := group.clusters.filter (!·.isComplete)

/-- What a cluster adds to the line that shows its phrase. -/
def clusterText (cluster : Cluster) : Text :=
  cluster.profile.noun.describe ++ [' ', '['] ++ cluster.summary ++ [']']

/-- The group on one line. -/
def line (group : Group) : Text :=
  let body := match group with
    | nounPhrase clusters => Text.join [';', ' '] (clusters.map clusterText)
    | group => Text.join [',', ' '] (group.words.map Word.spelling)
  group.kind.toList ++ [':', ' '] ++ body

end Group

end CommandPrompt
