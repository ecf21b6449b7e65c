/-!
# Text

Text is a list of code points, so lengths, carets and cuts all count code points. This module holds
what the rest of the library does to text that has nothing to do with commands: telling blanks
from other characters, trimming, splitting into words, and cutting by positions that may be counted
from the end.
-/

namespace CommandPrompt

/-- Text is a list of code points. -/
abbrev Text := List Char

/-- Whether a character is white space, anywhere in the Unicode code space. -/
def isBlank (c : Char) : Bool :=
  let n := c.toNat
  (0x09 ≤ n && n ≤ 0x0D) || (0x1C ≤ n && n ≤ 0x20) || n == 0x85 || n == 0xA0 || n == 0x1680 ||
    (0x2000 ≤ n && n ≤ 0x200A) || n == 0x2028 || n == 0x2029 || n == 0x202F || n == 0x205F ||
    n == 0x3000

namespace Text

/-- Drops the blanks at the end. -/
def stripEnd (t : Text) : Text := (t.reverse.dropWhile isBlank).reverse

/-- Drops the blanks at both ends. -/
def strip (t : Text) : Text := stripEnd (t.dropWhile isBlank)

/-- Whether nothing but blanks is in the text. -/
def isAllBlank (t : Text) : Bool := t.all isBlank

/-- The pieces between blanks, empty ones included. -/
def pieces : Text → List Text
  | [] => [[]]
  | c :: cs =>
    if isBlank c then [] :: pieces cs
    else match pieces cs with
      | [] => [[c]]
      | piece :: rest => (c :: piece) :: rest

/-- The maximal runs without blanks, in order. -/
def words (t : Text) : List Text := (pieces t).filter fun piece => !piece.isEmpty

/-- The texts one after another, with a separator between neighbours. -/
def join (separator : Text) : List Text → Text
  | [] => []
  | [t] => t
  | t :: rest => t ++ separator ++ join separator rest

/-- The texts one after another, with single spaces between neighbours. -/
def unwords (ts : List Text) : Text := join [' '] ts

/-- A position in a text of the given length: negative positions count from the end, and
positions outside the text stand for the end they lie beyond. -/
def position (length : Nat) (i : Int) : Nat :=
  if i < 0 then (i + length).toNat else min i.toNat length

/-- The characters from one position up to, but without, another; empty if they are out of order. -/
def slice (t : Text) (start stop : Int) : Text :=
  (t.take (position t.length stop)).drop (position t.length start)

/-- Whether the text ends with the given character. -/
def endsWith (t : Text) (c : Char) : Bool := t.getLast? == some c

/-- Order by code points, the shorter first where one text begins the other. -/
def order : Text → Text → Ordering
  | [], [] => .eq
  | [], _ :: _ => .lt
  | _ :: _, [] => .gt
  | a :: as, b :: bs => (compare a.toNat b.toNat).then (order as bs)

/-- Whether the first text comes no later than the second in the order by code points. -/
def le (s t : Text) : Bool := order s t != .gt

end Text

end CommandPrompt
