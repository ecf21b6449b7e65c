import CommandPrompt.Number.Rounding
import Mathlib.Algebra.Order.Field.Power
import Mathlib.Algebra.Order.Field.Rat
import Mathlib.Tactic.Positivity

/-!
# Rounding keeps the sign

Whether a score is infinite depends on a penalty being zero, and a penalty is calculated in rounded
steps. Rounding neither makes something of zero nor zero of a positive number
(`Rounding.KeepsSign`), so zero penalties are what they are without rounding. This holds of exact
calculation, and of rounding to any number of significant digits (`Rounding.keepsSign_toBits`):
measured in units of its last digit a positive number is at least one, because its first digit is
found correctly (`twoPow_floorLog2_le`), and the nearest integer is no less than one, then.
-/

namespace CommandPrompt

/-! ### Powers of two -/

theorem twoPow_eq_zpow (e : Int) : twoPow e = (2 : Rat) ^ e := by
  rw [twoPow]
  split
  · next h =>
    obtain ⟨n, rfl⟩ := Int.eq_ofNat_of_zero_le h
    rw [zpow_natCast, Int.toNat_natCast, Nat.pow_eq, Nat.cast_pow, Nat.cast_ofNat]
  · next h =>
    obtain ⟨n, hn⟩ := Int.eq_ofNat_of_zero_le (by omega : 0 ≤ -e)
    obtain rfl : e = -n := by omega
    rw [neg_neg, Int.toNat_natCast, zpow_neg, zpow_natCast, Nat.pow_eq, Nat.cast_pow,
      Nat.cast_ofNat, one_div]

theorem twoPow_pos (e : Int) : 0 < twoPow e := by
  rw [twoPow_eq_zpow]
  positivity

theorem twoPow_add (a b : Int) : twoPow (a + b) = twoPow a * twoPow b := by
  rw [twoPow_eq_zpow, twoPow_eq_zpow, twoPow_eq_zpow, zpow_add₀ two_ne_zero]

theorem one_le_twoPow {e : Int} (h : 0 ≤ e) : 1 ≤ twoPow e := by
  rw [twoPow_eq_zpow]
  exact one_le_zpow₀ one_le_two h

/-- A power of two with a natural exponent is a natural number. -/
theorem twoPow_natCast (n : Nat) : twoPow n = ((2 ^ n : Nat) : Rat) := by
  rw [twoPow_eq_zpow, zpow_natCast, Nat.cast_pow, Nat.cast_ofNat]

/-- **The first digit is found correctly**: the power of two is no more than the number. -/
theorem twoPow_floorLog2_le {q : Rat} (hq : 0 < q) : twoPow (floorLog2 q) ≤ q := by
  have hden : (0 : Rat) < q.den := Nat.cast_pos.mpr q.den_pos
  have hnum : q.num.natAbs ≠ 0 := Int.natAbs_ne_zero.mpr (Rat.num_pos.mpr hq).ne'
  have hmul : q * q.den = (q.num.natAbs : Rat) := by
    rw [Rat.mul_den_eq_num, Nat.cast_natAbs, abs_of_pos (Rat.num_pos.mpr hq)]
  have hnumlog : twoPow q.num.natAbs.log2 ≤ q.num.natAbs := by
    rw [twoPow_natCast]
    exact Nat.cast_le.mpr (Nat.log2_self_le hnum)
  have hdenlog : (q.den : Rat) ≤ twoPow (q.den.log2 + 1 : Nat) := by
    rw [twoPow_natCast]
    exact Nat.cast_le.mpr (Nat.le_of_lt Nat.lt_log2_self)
  rw [floorLog2]
  split
  · -- one less than the difference of the lengths is small enough in any case
    have hsplit : twoPow (q.num.natAbs.log2 : Int) =
        twoPow ((q.num.natAbs.log2 : Int) - q.den.log2 - 1) * twoPow (q.den.log2 + 1 : Nat) := by
      rw [← twoPow_add]
      congr 1
      push_cast
      omega
    have hle : twoPow ((q.num.natAbs.log2 : Int) - q.den.log2 - 1) * q.den ≤ q * q.den := by
      calc twoPow ((q.num.natAbs.log2 : Int) - q.den.log2 - 1) * q.den
          ≤ twoPow ((q.num.natAbs.log2 : Int) - q.den.log2 - 1) *
              twoPow (q.den.log2 + 1 : Nat) :=
            mul_le_mul_of_nonneg_left hdenlog (twoPow_pos _).le
        _ = twoPow (q.num.natAbs.log2 : Int) := hsplit.symm
        _ ≤ q.num.natAbs := hnumlog
        _ = q * q.den := hmul.symm
    exact le_of_mul_le_mul_right hle hden
  · next h => exact not_lt.mp h

/-! ### The nearest integer -/

theorem floor_le_roundHalfEven (q : Rat) : q.floor ≤ roundHalfEven q := by
  rw [roundHalfEven]
  split
  · exact le_refl _
  · split
    · omega
    · split <;> omega

theorem one_le_roundHalfEven {q : Rat} (h : 1 ≤ q) : 1 ≤ roundHalfEven q := by
  have hfloor : (1 : Int) ≤ q.floor := Rat.le_floor_iff.mpr (by exact_mod_cast h)
  exact hfloor.trans (floor_le_roundHalfEven q)

/-! ### Zero and positive numbers -/

namespace Rounding

/-- Whether rounding keeps zero, and keeps what is positive positive. -/
structure KeepsSign (round : Rounding) : Prop where
  zero : round 0 = 0
  pos : ∀ q, 0 < q → 0 < round q

theorem KeepsSign.nonneg {round : Rounding} (h : round.KeepsSign) {q : Rat} (hq : 0 ≤ q) :
    0 ≤ round q := by
  rcases hq.eq_or_lt with rfl | hpos
  · exact h.zero.ge
  · exact (h.pos q hpos).le

theorem keepsSign_exact : exact.KeepsSign where
  zero := rfl
  pos _ hq := hq

/-- **Significant digits keep the sign**, however few they are. -/
theorem keepsSign_toBits {digits : Nat} (hdigits : 0 < digits) : (toBits digits).KeepsSign where
  zero := by rw [toBits, if_pos rfl]
  pos q hq := by
    rw [toBits, if_neg hq.ne']
    dsimp only
    have hunit := twoPow_pos (floorLog2 q.abs - digits + 1)
    have habs : q.abs = q := Rat.abs_of_nonneg hq.le
    -- the digits of the number are at least one of them, so its last unit is no more than itself
    have hle : twoPow (floorLog2 q.abs - digits + 1) ≤ q := by
      have hsplit : twoPow (floorLog2 q) =
          twoPow (floorLog2 q - digits + 1) * twoPow (digits - 1 : Int) := by
        rw [← twoPow_add]
        congr 1
        omega
      have hone : 1 ≤ twoPow (digits - 1 : Int) := one_le_twoPow (by omega)
      rw [habs] at hunit ⊢
      calc twoPow (floorLog2 q - digits + 1)
          ≤ twoPow (floorLog2 q - digits + 1) * twoPow (digits - 1 : Int) :=
            le_mul_of_one_le_right hunit.le hone
        _ = twoPow (floorLog2 q) := hsplit.symm
        _ ≤ q := twoPow_floorLog2_le hq
    have hround : 1 ≤ roundHalfEven (q / twoPow (floorLog2 q.abs - digits + 1)) :=
      one_le_roundHalfEven ((one_le_div hunit).mpr hle)
    have hcast : (1 : Rat) ≤ roundHalfEven (q / twoPow (floorLog2 q.abs - digits + 1)) := by
      exact_mod_cast hround
    exact mul_pos (lt_of_lt_of_le one_pos hcast) hunit

theorem keepsSign_double : double.KeepsSign := keepsSign_toBits (by decide)

end Rounding

end CommandPrompt
