import CommandPrompt.Number.Extended

/-!
# Doubles

The numbers of the binary interchange format with 64 bits: which of them a rational number is
rounded to, and by which bits each is stored.
-/

namespace CommandPrompt.Double

/-- Below this exponent of the last digit nothing is stored. -/
def leastExponent : Int := -1074

/-- The double nearest to a rational number, ties to an even last digit. Numbers beyond the greatest
double become infinite. -/
def ofRat (q : Rat) : Extended :=
  if q = 0 then .finite 0
  else
    let unit := twoPow (max (floorLog2 q.abs - 52) leastExponent)
    let rounded := roundHalfEven (q / unit) * unit
    if twoPow 1024 ≤ rounded then .top
    else if rounded ≤ -twoPow 1024 then .bottom
    else .finite rounded

/-- The bit that tells a number below zero. -/
def signBit : Nat := 0x8000000000000000

/-- The value of the lowest bit of the exponent. The leading digit of a number in the usual range
would stand there, and is not stored. -/
def exponentBit : Nat := 0x10000000000000

/-- The bits of a number that is a double, the sign first. -/
def bits : Extended → Nat
  | .top => 0x7FF0000000000000
  | .bottom => 0xFFF0000000000000
  | .finite q =>
    if q = 0 then 0
    else
      let sign := if q < 0 then signBit else 0
      let exponent := floorLog2 q.abs
      if exponent < -1022 then sign + (q.abs / twoPow leastExponent).floor.toNat
      else
        let fraction := (q.abs / twoPow (exponent - 52)).floor.toNat - exponentBit
        sign + (exponent + 1023).toNat * exponentBit + fraction

end CommandPrompt.Double
