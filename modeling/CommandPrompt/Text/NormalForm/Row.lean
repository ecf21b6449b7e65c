import CommandPrompt.Text.Basic

/-!
# Rows of the decomposition table

The table that takes characters apart is written in rows. A row covers a run of code points whose
decompositions differ only in their last code point, which grows with the run.
-/

namespace CommandPrompt.Text.NormalForm

/-- The first and last code point of a run, and the decomposition of the first. -/
abbrev Row := Nat × Nat × List Nat

/-- The list with a number added to its last member. -/
def shiftLast (distance : Nat) : List Nat → List Nat
  | [] => []
  | [n] => [n + distance]
  | n :: rest => n :: shiftLast distance rest

/-- The decomposition that a row gives to a code point, if the row covers it. -/
def Row.decompose? (row : Row) (n : Nat) : Option (List Nat) :=
  let (first, last, target) := row
  if first ≤ n ∧ n ≤ last then some (shiftLast (n - first) target) else none

end CommandPrompt.Text.NormalForm
