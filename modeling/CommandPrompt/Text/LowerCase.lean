import CommandPrompt.Text.LowerCase.Table

/-!
# Lower case

Full lower-casing by the Unicode rules. A letter is mapped on its own, with two exceptions: a
capital dotted I becomes an i and a dot above, and a capital sigma becomes a final sigma where it
ends a word. On ASCII text this is the usual mapping of the letters A to Z.
-/

namespace CommandPrompt.Text

namespace LowerCase

/-- Whether one of the ranges covers a character. -/
def covers (ranges : List (Nat × Nat)) (c : Char) : Bool :=
  ranges.any fun (first, last) => first ≤ c.toNat && c.toNat ≤ last

/-- Whether the first character that counts is a letter with a case. -/
def meetsLetter (t : Text) : Bool :=
  match t.dropWhile (covers ignorable) with
  | [] => false
  | c :: _ => covers cased c

/-- The lower-case form of one character outside ASCII, wherever it stands. -/
def ofWide (c : Char) : Text :=
  if c.toNat = 0x130 then ['i', Char.ofNat 0x307]
  else match runs.findSome? fun run => run.map? c.toNat with
    | some n => [Char.ofNat n]
    | none => [c]

/-- The lower-case form of one character, given the text before it (last character first) and the
text behind it. -/
def ofChar (before : Text) (c : Char) (after : Text) : Text :=
  if c.toNat < 128 then [c.toLower]
  else if c.toNat = 0x3A3 then
    if meetsLetter before && !meetsLetter after then [Char.ofNat 0x3C2] else [Char.ofNat 0x3C3]
  else ofWide c

/-- The lower-case form of a text, given the text before it, last character first. -/
def lowerAfter (before : Text) : Text → Text
  | [] => []
  | c :: cs => ofChar before c cs ++ lowerAfter (c :: before) cs

end LowerCase

/-- The text in lower case. -/
def lower (t : Text) : Text := LowerCase.lowerAfter [] t

end CommandPrompt.Text
