import CommandPrompt.Phrase.Match

/-!
# The part-of-speech gate

A command is a verb followed by prepositions and noun phrases. So the first place of a text keeps
only its verbs, and every later place everything else. A place that is left with nothing cannot be
part of a command.
-/

namespace CommandPrompt.AmbiguityGroup

/-- Whether a word can stand at a position of a command. -/
def fits (position : Nat) (word : Word) : Bool :=
  if position = 0 then word.isVerb else !word.isVerb

/-- The gate, for groups that stand at the given position and behind it. -/
def gateFrom (position : Nat) : List AmbiguityGroup → Except Misreading (List AmbiguityGroup)
  | [] => .ok []
  | group :: rest =>
    match group.filter (fits position) with
    | [] => .error (.partOfSpeech position)
    | kept => (gateFrom (position + 1) rest).map (kept :: ·)

/-- Keeps the verbs of the first group and everything but verbs of the others. -/
def gate (groups : List AmbiguityGroup) : Except Misreading (List AmbiguityGroup) :=
  gateFrom 0 groups

end CommandPrompt.AmbiguityGroup
