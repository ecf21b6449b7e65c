import CommandPrompt.Number.Decimal
import CommandPrompt.Number.Integer

/-!
# How many suggestions are wanted

A caller says how many suggestions to keep, as a number or as something that can be read as one.
Numbers with a fraction are cut off, texts are read, and what is no number at all asks for none.
Only an infinite number is refused.
-/

namespace CommandPrompt

/-- What a caller may give for the number of suggestions wanted. -/
inductive Limit where
  | whole (n : Int)
  | decimal (d : Decimal)
  | infinite
  | written (t : Text)
  | flag (b : Bool)
  | notANumber
  deriving DecidableEq, Repr

/-- An infinite number of suggestions was asked for. -/
inductive LimitFault where
  | infinite
  deriving DecidableEq, Repr

/-- The fault in words. -/
def LimitFault.message : LimitFault → String
  | .infinite => "cannot convert float infinity to integer"

namespace Limit

/-- The whole part of a number. -/
def wholePart (q : Rat) : Int := if q < 0 then q.ceil else q.floor

/-- The number of suggestions that is asked for. -/
def count? : Limit → Except LimitFault Int
  | whole n => .ok n
  | decimal d => match d.toDouble with
    | .finite q => .ok (wholePart q)
    | _ => .error .infinite
  | infinite => .error .infinite
  | written t => .ok ((Integer.parse? t).getD 0)
  | flag b => .ok (if b then 1 else 0)
  | notANumber => .ok 0

end Limit

end CommandPrompt
