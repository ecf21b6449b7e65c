import CommandPrompt.Text.Typable

/-!
# The line at the prompt

A line is what stands at the prompt: its text and the place of the caret. Cleaning a line makes its
text typable and keeps the caret between the same characters. A clean line is then split into its
working word, the word that the caret touches, and the settled part, the words before it.
-/

namespace CommandPrompt

/-- A text and a caret in it. The caret may lie outside the text until the line is cleaned. -/
structure Line where
  text : Text
  caret : Int
  deriving DecidableEq, Repr

/-- A stretch of a line, from `start` up to but without `stop`. -/
structure Span where
  start : Int
  stop : Int
  deriving DecidableEq, Repr

namespace Text

/-- A character as it stands on a clean line, where every blank is a space. -/
def asTyped (c : Char) : Char := if isBlank c then ' ' else c

/-- Whether cleaning keeps a character that follows a kept blank (or the start), or something else.
-/
def keeps (afterBlank : Bool) (c : Char) : Bool :=
  isTypableChar (asTyped c) && !(isBlank c && afterBlank)

/-- One pass over a text from the given place on: the characters that are kept, and the caret moved
back by one for every character that is dropped from before the place `original`. -/
def scan (original : Nat) (afterBlank : Bool) (place : Nat) (caret : Int) : Text → Text × Int
  | [] => ([], caret)
  | c :: cs =>
    if keeps afterBlank c then
      let (kept, moved) := scan original (isBlank c) (place + 1) caret cs
      (asTyped c :: kept, moved)
    else scan original afterBlank (place + 1) (if place < original then caret - 1 else caret) cs

end Text

namespace Line

/-- The line with the caret behind its last character. -/
def atEnd (t : Text) : Line := ⟨t, t.length⟩

/-- The line with the given caret, or with the caret behind its last character. -/
def withCaret (t : Text) (caret : Option Int) : Line := ⟨t, caret.getD t.length⟩

/-- The caret moved to the nearer end if it lies outside the text. -/
def clampedCaret (line : Line) : Nat := min line.caret.toNat line.text.length

/-- The line with a typable text, and the caret moved back by what was dropped from before it. Of a
line without words nothing is left. -/
def clean (line : Line) : Line :=
  let (kept, moved) := Text.scan line.clampedCaret true 0 line.clampedCaret line.text
  if kept.isAllBlank then ⟨[], 0⟩ else ⟨kept, min moved kept.length⟩

/-- The space that stands for a word just begun. -/
def newWord : Text := [' ']

/-- Where the working word lies: the run without blanks around the caret, or the last space if the
caret stands right behind it. -/
def workingSpan (line : Line) : Span :=
  let caret := line.clampedCaret
  if line.text.endsWith ' ' && caret == line.text.length then
    ⟨(line.text.length : Int) - 1, line.text.length⟩
  else
    let before := (line.text.take caret).reverse.takeWhile fun c => !isBlank c
    let after := (line.text.drop caret).takeWhile fun c => !isBlank c
    ⟨(caret - before.length : Nat), (caret + after.length : Nat)⟩

/-- The word that is being typed: `newWord` where one was just begun, empty on a blank line. -/
def workingWord (line : Line) (span : Span) : Text :=
  if line.text.isAllBlank then []
  else if line.text.endsWith ' ' && line.caret == line.text.length then newWord
  else line.text.slice (max span.start 0) (min span.stop line.text.length)

/-- The text before the working word, without blanks around it. -/
def settled (line : Line) (span : Span) : Text := Text.strip (line.text.slice 0 span.start)

end Line

end CommandPrompt
