import CommandPrompt.Number.Double
import CommandPrompt.Text.LowerCase

/-!
# Scores

How well a candidate suits the letters typed so far. The typed text is laid over the candidate at
every offset. At one offset the score is the number of letters that agree, divided by a penalty: a
hundred times the square of the offset, spread over the length that is left, plus that length. So
what begins with the typed text leads, and of such candidates the one that needs fewer letters. No
penalty at all, which means an exact match, gives an infinite score.
-/

namespace CommandPrompt

/-- The penalty of an offset has no value because there is no length to spread it over. -/
inductive ScoreFault where
  | nothingLeft
  deriving DecidableEq, Repr

/-- The fault in words. -/
def ScoreFault.message : ScoreFault → String
  | .nothingLeft => "float division by zero"

/-- The score of a typed text at one offset of a candidate. -/
structure OffsetScore where
  offset : Int
  agreeing : Nat
  score : Extended
  deriving DecidableEq

namespace Score

/-- How heavily an offset weighs. -/
def shiftPenalty : Rat := 100

/-- The number of places at which two texts agree. -/
def agreement (s t : Text) : Nat := ((s.zip t).filter fun (a, b) => a == b).length

/-- The penalty at an offset, where `spare` is how much longer the candidate is. -/
def penalty (round : Rounding) (offset spare : Int) : Rat :=
  let weight := round (round (offset * offset : Int) * shiftPenalty)
  let shift := round (weight / round (spare + 1 : Int))
  round (shift + round spare)

/-- The score of a typed text at an offset of a candidate, without regard to letter case. -/
def atOffset (round : Rounding) (typed candidate : Text) (offset : Int) :
    Except ScoreFault OffsetScore :=
  let typed := typed.lower
  let candidate := candidate.lower
  -- Lengths are those in lower case, which need not be the lengths before.
  let spare : Int := (candidate.length : Int) - typed.length
  let agreeing := agreement typed (candidate.slice offset (offset + typed.length))
  if agreeing = 0 then .ok ⟨offset, 0, .finite 0⟩
  else if spare + 1 = 0 then .error .nothingLeft
  else
    let penalty := penalty round offset spare
    if penalty ≤ 0 then .ok ⟨offset, agreeing, .top⟩
    else .ok ⟨offset, agreeing, .finite (round (round agreeing / penalty))⟩

/-- The offsets at which a typed text fits inside a candidate. -/
def offsets (typed candidate : Text) : List Nat :=
  if candidate.length < typed.length then []
  else List.range (candidate.length - typed.length + 1)

/-- The best score over all offsets: zero for an empty text and for a candidate that is too short.
-/
def best (round : Rounding) (typed candidate : Text) : Except ScoreFault Extended :=
  if typed.isEmpty then .ok (.finite 0)
  else (offsets typed candidate).foldlM (fun best (offset : Nat) => do
    let scored ← atOffset round typed candidate offset
    return if best < scored.score then scored.score else best) (.finite 0)

end Score

end CommandPrompt
