import CommandPrompt.Text.Digit

/-!
# Integers as players and settings write them

A decimal number may carry a sign, blanks around it, and single underscores between its digits; the
digits may come from any script. More than `maxDigits` digits are refused.
-/

namespace CommandPrompt.Integer

/-- The greatest number of digits that is read. -/
def maxDigits : Nat := 4300

/-- A character with wide blanks and digits brought to ASCII. -/
def plain (c : Char) : Char :=
  if c.toNat < 127 then c
  else if isBlank c then ' '
  else match digitValue? c with
    | some n => Char.ofNat (48 + n)
    | none => '?'

/-- Whether a character may stand around a number. -/
def isPadding (c : Char) : Bool := c == ' ' || (9 ≤ c.toNat && c.toNat ≤ 13)

/-- The text without padding around it. -/
def trim (t : Text) : Text := ((t.dropWhile isPadding).reverse.dropWhile isPadding).reverse

/-- The digits of a text of digits with single underscores between them. -/
def digits? : Text → Option (List Nat)
  | [] => none
  | [c] => if c.isDigit then some [c.toNat - 48] else none
  | c :: '_' :: cs => if c.isDigit then (digits? cs).map ((c.toNat - 48) :: ·) else none
  | c :: cs => if c.isDigit then (digits? cs).map ((c.toNat - 48) :: ·) else none

/-- The number with the given decimal digits, most significant first. -/
def ofDigits (ds : List Nat) : Nat := ds.foldl (fun n d => 10 * n + d) 0

/-- The number that a text without a sign stands for. -/
def natural? (t : Text) : Option Nat :=
  (digits? t).bind fun ds => if ds.length ≤ maxDigits then some (ofDigits ds) else none

/-- The integer that a text stands for. -/
def parse? (t : Text) : Option Int :=
  match trim (t.map plain) with
  | '-' :: cs => (natural? cs).map fun n => -(n : Int)
  | '+' :: cs => (natural? cs).map Int.ofNat
  | cs => (natural? cs).map Int.ofNat

end CommandPrompt.Integer
