import CommandPrompt.World.Word
import CommandPrompt.Phrase.Misreading

/-!
# Matching text against a vocabulary

A text is read from left to right. At each place the longest spelling that begins the rest of the
text is taken, and with it every word so spelled, because one spelling can stand for several things.
A spelling has to end where a word of the text ends.
-/

namespace CommandPrompt

/-- The words that one place of a text can stand for. -/
abbrev AmbiguityGroup := List Word

namespace AmbiguityGroup

/-- The matches among the words that are left to try. Once a word has matched, at `found`
characters, shorter words are not tried any more; words longer than the text are passed over. -/
def collect (lowered : Text) (size : Nat) (found : Option Nat) : List Word → AmbiguityGroup
  | [] => []
  | word :: rest =>
    let length := word.spelling.length
    -- Lower case may be longer than the text itself, so the length is compared first.
    if size < length then collect lowered size found rest
    else if found.any (length < ·) then []
    else if word.key.isPrefixOf lowered then word :: collect lowered size (some length) rest
    else collect lowered size found rest

/-- The longest words of a vocabulary, longest spellings first, that begin a text. -/
def longest (vocabulary : List Word) (t : Text) : AmbiguityGroup :=
  collect t.lower t.length none vocabulary

/-- Reads a text without blanks around it. Every match takes at least the number of characters by
which the bound shrinks, so the length of the text is bound enough. -/
def readFrom (vocabulary : List Word) :
    (bound : Nat) → Text → Except Misreading (List AmbiguityGroup)
  | _, [] => .ok []
  | 0, t => .error (.noVocabularyMatch t)
  | bound + 1, t =>
    match longest vocabulary t with
    | [] => .error (.noVocabularyMatch t)
    | word :: others =>
      let length := word.spelling.length
      let rest := t.drop length
      if rest.head?.any (· != ' ') then .error (.wordBoundary (t.take length) rest)
      else (readFrom vocabulary bound (Text.strip rest)).map ((word :: others) :: ·)

/-- Reads a text as a sequence of words of a vocabulary, which has to be in order. -/
def read (vocabulary : List Word) (t : Text) : Except Misreading (List AmbiguityGroup) :=
  readFrom vocabulary t.length t.strip

end AmbiguityGroup

end CommandPrompt
