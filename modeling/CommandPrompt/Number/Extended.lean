import CommandPrompt.Number.Rounding

/-!
# Extended numbers

A score is a rational number or infinite. Extended numbers are ordered, so they can be ranked;
there is nothing among them that cannot be compared.
-/

namespace CommandPrompt

/-- A rational number, or an infinity on either side. -/
inductive Extended where
  | bottom
  | finite (q : Rat)
  | top
  deriving DecidableEq

namespace Extended

/-- Whether the first number is at most the second. -/
def le : Extended → Extended → Bool
  | bottom, _ => true
  | _, top => true
  | finite p, finite q => decide (p ≤ q)
  | _, _ => false

/-- Whether the first number is less than the second. -/
def lt (x y : Extended) : Bool := !le y x

instance : LE Extended := ⟨fun x y => le x y = true⟩

instance : LT Extended := ⟨fun x y => lt x y = true⟩

instance (x y : Extended) : Decidable (x ≤ y) := inferInstanceAs (Decidable (le x y = true))

instance (x y : Extended) : Decidable (x < y) := inferInstanceAs (Decidable (lt x y = true))

end Extended

end CommandPrompt
