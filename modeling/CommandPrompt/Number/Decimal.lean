import CommandPrompt.Number.Double
import CommandPrompt.Text.Basic

/-!
# Decimal numbers

A number with a decimal point, as a document gives it or a report shows it. It is written with as
few digits as it has, with a point in the usual range and with an exponent outside of it.
-/

namespace CommandPrompt

/-- The number `digits · 10 ^ exponent`, or its negative. -/
structure Decimal where
  negative : Bool
  digits : Nat
  exponent : Int
  deriving DecidableEq, Repr

namespace Decimal

/-- A power of ten, for any integer exponent. -/
def tenPow (e : Int) : Rat :=
  if 0 ≤ e then (Nat.pow 10 e.toNat : Rat) else 1 / (Nat.pow 10 (-e).toNat : Rat)

/-- The number of digits of a number, in base ten. -/
def width (n : Nat) : Nat := (Nat.toDigits 10 n).length

/-- The double that a decimal number is read as. -/
def toDouble (d : Decimal) : Extended :=
  -- Beyond these bounds the answer is known, and the powers need not be computed.
  let scale := width d.digits + d.exponent
  if d.digits = 0 ∨ scale < -400 then .finite 0
  else if 400 < scale then if d.negative then .bottom else .top
  else
    let size := (d.digits : Rat) * tenPow d.exponent
    Double.ofRat (if d.negative then -size else size)

/-- The number rounded to a count of decimal places, a half going to the even neighbour. -/
def ofRat (places : Nat) (q : Rat) : Decimal :=
  ⟨q < 0, (roundHalfEven (q.abs * tenPow places)).toNat, -(places : Int)⟩

/-- The digits without the zeros at their end, given with the exponent that makes up for them. -/
def trim (digits : List Char) (exponent : Int) : List Char × Int :=
  let zeros := (digits.reverse.takeWhile (· == '0')).length
  (digits.take (digits.length - zeros), exponent + zeros)

/-- The exponent of a number in scientific notation: a sign and at least two digits. -/
def exponentText (e : Int) : Text :=
  let size := Nat.toDigits 10 e.natAbs
  (if e < 0 then '-' else '+') :: (if size.length < 2 then '0' :: size else size)

/-- The digits of a positive number with a point: the first digit stands for `10 ^ lead`. -/
def place (digits : List Char) (lead : Int) : Text :=
  if lead < -4 ∨ 16 ≤ lead then
    let fraction := digits.drop 1
    digits.take 1 ++ (if fraction.isEmpty then [] else '.' :: fraction) ++ 'e' :: exponentText lead
  else if lead < 0 then
    '0' :: '.' :: List.replicate ((-lead).toNat - 1) '0' ++ digits
  else
    let whole := lead.toNat + 1
    let fraction := digits.drop whole
    digits.take whole ++ List.replicate (whole - digits.length) '0' ++
      '.' :: (if fraction.isEmpty then ['0'] else fraction)

/-- The number as text: with a point from `0.0001` up to, but without, `10 ^ 16`, and at least one
digit behind it; else in scientific notation. -/
def render (d : Decimal) : Text :=
  let sign := if d.negative then ['-'] else []
  if d.digits = 0 then sign ++ "0.0".toList
  else
    let (digits, exponent) := trim (Nat.toDigits 10 d.digits) d.exponent
    sign ++ place digits (digits.length + exponent - 1)

end Decimal

end CommandPrompt
