/-!
# Rounding

Scores are quotients. What a score is worth is a rational number; what is stored of it has 53
significant binary digits, each step of a calculation rounded to the nearest such number. A
calculation here takes its rounding as an argument, so the same definition gives the exact value
(`Rounding.exact`) and the stored one (`Rounding.double`).
-/

namespace CommandPrompt

/-- What is kept of a number that a step of a calculation gives. -/
abbrev Rounding := Rat → Rat

/-- The nearest integer; of two equally near ones the even one. -/
def roundHalfEven (q : Rat) : Int :=
  let below := q.floor
  let rest := q - below
  if rest < 1 / 2 then below
  else if 1 / 2 < rest then below + 1
  else if below % 2 = 0 then below else below + 1

/-- A power of two, for any integer exponent. -/
def twoPow (e : Int) : Rat :=
  if 0 ≤ e then (Nat.pow 2 e.toNat : Rat) else 1 / (Nat.pow 2 (-e).toNat : Rat)

/-- The greatest `e` such that `twoPow e` is at most the given positive number. -/
def floorLog2 (q : Rat) : Int :=
  let e : Int := (q.num.natAbs.log2 : Int) - q.den.log2
  if q < twoPow e then e - 1 else e

namespace Rounding

/-- Keeps every number as it is. -/
def exact : Rounding := id

/-- The nearest number with at most `digits` significant binary digits, ties to an even last
digit. -/
def toBits (digits : Nat) : Rounding := fun q =>
  if q = 0 then 0
  else
    let unit := twoPow (floorLog2 q.abs - digits + 1)
    roundHalfEven (q / unit) * unit

/-- Rounding to the 53 significant digits of a double. -/
def double : Rounding := toBits 53

end Rounding

end CommandPrompt
