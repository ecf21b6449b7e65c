import CommandPrompt.World.Basic

/-!
# Catalogs

A catalog is a vocabulary made ready for reading commands: every word once and in order, and for
every noun a profile, which gathers the words that name or describe it.
-/

namespace CommandPrompt

/-- The words that describe one noun, in order. -/
structure Profile where
  noun : Noun
  words : List Word
  deriving DecidableEq, Repr

namespace Profile

/-- The profile that a noun has with the given words. -/
def ofWords (noun : Noun) (words : List Word) : Profile := ⟨noun, Word.sort words⟩

/-- The number of the noun. -/
def key (profile : Profile) : Int := profile.noun.ref

/-- The keys of the words that name the noun, each once. -/
def names (profile : Profile) : List Text :=
  ((profile.words.filter (·.partOfSpeech == .noun)).map Word.key).eraseDups

/-- Whether a word is spelled like a name of the noun. -/
def isNamedBy (profile : Profile) (word : Word) : Bool := profile.names.contains word.key

/-- The profile as it is shown to whoever builds a world. -/
def summary (profile : Profile) : String :=
  "NounProfile(" ++ String.ofList profile.noun.describe.quoted ++ ", key=" ++
    toString profile.key ++ ")"

end Profile

/-- A vocabulary in order, with a profile for every noun in it. -/
structure Catalog where
  words : List Word
  profiles : List Profile
  deriving DecidableEq, Repr

namespace Catalog

/-- The words of one noun, as a profile. Where words of one number disagree about their noun, the
last one decides. -/
def profileOf? (words : List Word) (key : Int) : Option Profile :=
  let own := words.filter (·.profileKey == some key)
  (own.getLast?.bind Word.noun?).map (Profile.ofWords · own)

/-- The catalog of the given words. -/
def ofWords (words : List Word) : Catalog :=
  let ordered := Word.sort (Word.distinct words)
  ⟨ordered, ((ordered.filterMap Word.profileKey).eraseDups).filterMap (profileOf? ordered)⟩

/-- The catalog of a world. -/
def ofWorld (world : World) : Catalog := ofWords world.vocabulary

/-- The profile of the noun with the given number. -/
def profile? (catalog : Catalog) (key : Int) : Option Profile :=
  catalog.profiles.find? (·.key == key)

/-- The profile of the noun that a word names or describes. -/
def profileFor? (catalog : Catalog) (word : Word) : Option Profile :=
  word.profileKey.bind catalog.profile?

/-- The words that are actions. -/
def verbWords (catalog : Catalog) : List Word := catalog.words.filter Word.isVerb

/-- The profiles by the numbers of their nouns. -/
def sortedProfiles (catalog : Catalog) : List Profile :=
  catalog.profiles.mergeSort fun p q => p.key ≤ q.key

/-- The words that can open a noun phrase: every name and every adjective. -/
def nounStarters (catalog : Catalog) : List Word :=
  Word.sort (catalog.sortedProfiles.flatMap Profile.words)

end Catalog

end CommandPrompt
