import CommandPrompt.Text.Basic

/-!
# Misreadings

Why the words typed so far make no command. Most misreadings are a matter of course while a player
is typing. An ambiguous preposition is not: it shows that the vocabulary itself is at fault.
-/

namespace CommandPrompt

/-- Why the words typed so far make no command. -/
inductive Misreading where
  /-- No word of the vocabulary begins the remaining text. -/
  | noVocabularyMatch (remainder : Text)
  /-- The longest word that begins the text ends inside a word of the text. -/
  | wordBoundary (matched remainder : Text)
  /-- No meaning of the word at a position is of the kind that the position asks for. -/
  | partOfSpeech (position : Nat)
  /-- No noun fits all words of the phrase at a place among the groups. -/
  | noConsistentNoun (group : Nat)
  /-- A word stands for two prepositions at once. -/
  | ambiguousPreposition (spelling : Text)
  deriving DecidableEq, Repr

namespace Misreading

/-- Whether the vocabulary is at fault and not the player. -/
def isFatal : Misreading → Bool
  | ambiguousPreposition _ => true
  | _ => false

/-- The misreading in words. -/
def message : Misreading → String
  | noVocabularyMatch remainder =>
    "No vocabulary match found for \"" ++ String.ofList remainder ++ "\""
  | wordBoundary matched remainder =>
    "Failed to match whole word after \"" ++ String.ofList matched ++ "\". Remainder: \"" ++
      String.ofList remainder ++ "\""
  | partOfSpeech position =>
    "Incorrect part of speech at word " ++ toString position ++ ": expected " ++
      if position = 0 then "a verb" else "a noun, adjective or preposition"
  | noConsistentNoun group => "No noun with full streak for group " ++ toString group
  | ambiguousPreposition spelling =>
    "We have multiple matches for preposition \"" ++ String.ofList spelling ++ "\"!"

end Misreading

end CommandPrompt
