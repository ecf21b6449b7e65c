import CommandPrompt.Text.Basic

/-!
# What can be typed

A player types letters and digits of the ASCII range, spaces, apostrophes and hyphens. A text is
typable if it could stand at the prompt: only such characters, no blank at its start and no two
blanks in a row. One blank at its end is allowed, because it tells that a new word was begun.
-/

namespace CommandPrompt

/-- Whether a character can be typed: an ASCII letter or digit, a space, an apostrophe, a hyphen. -/
def isTypableChar (c : Char) : Bool := c == ' ' || c == '\'' || c == '-' || c.isAlphanum

namespace Text

/-- Whether a text can be typed on after a blank (or at the start), or after something else. -/
def isTypableAfter (afterBlank : Bool) : Text → Bool
  | [] => true
  | c :: cs => !(isBlank c && afterBlank) && isTypableChar c && isTypableAfter (isBlank c) cs

/-- Whether a text can be typed at the prompt. -/
def isTypable (t : Text) : Bool := isTypableAfter true t

end Text

end CommandPrompt
