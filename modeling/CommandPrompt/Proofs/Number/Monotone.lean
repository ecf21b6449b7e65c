import CommandPrompt.Proofs.Number.Rounding

/-!
# Rounding keeps the order

Suggestions are sorted by rounded scores. For a new word the scores are one plus a bias that grows
with the place of a candidate, and a rounding that turned two of them around would turn the
candidates around. Rounding keeps the order (`Rounding.KeepsOrder`), exactly or to any number of
significant digits (`Rounding.keepsOrder_toBits`).

Numbers with the same first digit are measured in the same unit, and the nearest integer is monotone
(`roundHalfEven_mono`). Numbers with different first digits are kept apart by a power of two: the
smaller one is rounded to no more than the power above it, the greater one to no less than the power
below it (`Rounding.toBits_le_twoPow`, `Rounding.twoPow_le_toBits`).
-/

namespace CommandPrompt

/-! ### The first digit -/

theorem twoPow_mono {a b : Int} (h : a ≤ b) : twoPow a ≤ twoPow b := by
  rw [twoPow_eq_zpow, twoPow_eq_zpow]
  exact zpow_le_zpow_right₀ one_le_two h

/-- **The first digit is found correctly**: the next power of two is more than the number. -/
theorem lt_twoPow_floorLog2_add_one {q : Rat} (hq : 0 < q) : q < twoPow (floorLog2 q + 1) := by
  have hden : (0 : Rat) < q.den := Nat.cast_pos.mpr q.den_pos
  have hmul : q * q.den = (q.num.natAbs : Rat) := by
    rw [Rat.mul_den_eq_num, Nat.cast_natAbs, abs_of_pos (Rat.num_pos.mpr hq)]
  have hnumlog : (q.num.natAbs : Rat) < twoPow (q.num.natAbs.log2 + 1 : Nat) := by
    rw [twoPow_natCast]
    exact Nat.cast_lt.mpr Nat.lt_log2_self
  have hdenlog : twoPow q.den.log2 ≤ (q.den : Rat) := by
    rw [twoPow_natCast]
    exact Nat.cast_le.mpr (Nat.log2_self_le q.den_pos.ne')
  rw [floorLog2]
  split
  · next h =>
    rw [sub_add_cancel]
    exact h
  · -- one more than the difference of the lengths is large enough in any case
    have hsplit : twoPow (q.num.natAbs.log2 + 1 : Nat) =
        twoPow ((q.num.natAbs.log2 : Int) - q.den.log2 + 1) * twoPow q.den.log2 := by
      rw [← twoPow_add]
      congr 1
      push_cast
      omega
    have hlt : q * q.den < twoPow ((q.num.natAbs.log2 : Int) - q.den.log2 + 1) * q.den := by
      calc q * q.den = q.num.natAbs := hmul
        _ < twoPow (q.num.natAbs.log2 + 1 : Nat) := hnumlog
        _ = twoPow ((q.num.natAbs.log2 : Int) - q.den.log2 + 1) * twoPow q.den.log2 := hsplit
        _ ≤ twoPow ((q.num.natAbs.log2 : Int) - q.den.log2 + 1) * q.den :=
            mul_le_mul_of_nonneg_left hdenlog (twoPow_pos _).le
    exact lt_of_mul_lt_mul_right hlt hden.le

theorem floorLog2_mono {p q : Rat} (hp : 0 < p) (hpq : p ≤ q) : floorLog2 p ≤ floorLog2 q := by
  by_contra hlt
  have hpower : twoPow (floorLog2 q + 1) ≤ twoPow (floorLog2 p) := twoPow_mono (by omega)
  have hq : q < q := by
    calc q < twoPow (floorLog2 q + 1) := lt_twoPow_floorLog2_add_one (hp.trans_le hpq)
      _ ≤ twoPow (floorLog2 p) := hpower
      _ ≤ p := twoPow_floorLog2_le hp
      _ ≤ q := hpq
  exact lt_irrefl q hq

/-! ### The nearest integer -/

theorem roundHalfEven_le_floor_add_one (q : Rat) : roundHalfEven q ≤ q.floor + 1 := by
  rw [roundHalfEven]
  split
  · omega
  · split
    · exact le_refl _
    · split <;> omega

@[simp] theorem roundHalfEven_intCast (n : Int) : roundHalfEven (n : Rat) = n := by
  have hrest : (n : Rat) - (n : Rat).floor < 1 / 2 := by
    rw [Rat.floor_intCast, sub_self]
    norm_num
  rw [roundHalfEven]
  rw [if_pos hrest, Rat.floor_intCast]

/-- **The nearest integer is monotone.** -/
theorem roundHalfEven_mono {p q : Rat} (h : p ≤ q) : roundHalfEven p ≤ roundHalfEven q := by
  rcases (Rat.floor_monotone h).eq_or_lt with heq | hlt
  · -- between the same integers the greater rest is not rounded down where the smaller is not
    rw [roundHalfEven, roundHalfEven, heq]
    have hrest : p - q.floor ≤ q - q.floor := sub_le_sub_right h _
    by_cases hdown : q - q.floor < 1 / 2
    · rw [if_pos hdown, if_pos (hrest.trans_lt hdown)]
    · rw [if_neg hdown]
      by_cases hup : 1 / 2 < q - q.floor
      · rw [if_pos hup]
        split
        · omega
        · split
          · exact le_refl _
          · split <;> omega
      · rw [if_neg hup]
        split
        · split <;> omega
        · rw [if_neg fun hpup => hup (hpup.trans_le hrest)]
  · exact (roundHalfEven_le_floor_add_one p).trans
      ((Int.add_one_le_iff.mpr hlt).trans (floor_le_roundHalfEven q))

namespace Rounding

/-! ### Significant digits -/

section Digits

variable {digits : Nat} {q : Rat}

theorem toBits_of_pos (hq : 0 < q) :
    toBits digits q = roundHalfEven (q / twoPow (floorLog2 q - digits + 1)) *
      twoPow (floorLog2 q - digits + 1) := by
  rw [toBits, if_neg hq.ne']
  dsimp only
  rw [Rat.abs_of_nonneg hq.le]

/-- A number is rounded to no more than the next power of two. -/
theorem toBits_le_twoPow (hq : 0 < q) : toBits digits q ≤ twoPow (floorLog2 q + 1) := by
  have hunit := twoPow_pos (floorLog2 q - digits + 1)
  have hsplit : twoPow (floorLog2 q + 1) =
      twoPow (digits : Int) * twoPow (floorLog2 q - digits + 1) := by
    rw [← twoPow_add]
    congr 1
    omega
  have hle : q / twoPow (floorLog2 q - digits + 1) ≤ ((2 ^ digits : Nat) : Int) := by
    rw [div_le_iff₀ hunit, Int.cast_natCast, ← twoPow_natCast, ← hsplit]
    exact (lt_twoPow_floorLog2_add_one hq).le
  have hround := roundHalfEven_mono hle
  rw [roundHalfEven_intCast] at hround
  rw [toBits_of_pos hq, hsplit, twoPow_natCast]
  refine mul_le_mul_of_nonneg_right ?_ hunit.le
  exact_mod_cast hround

/-- A number is rounded to no less than the power of two that begins it. -/
theorem twoPow_le_toBits (hdigits : 0 < digits) (hq : 0 < q) :
    twoPow (floorLog2 q) ≤ toBits digits q := by
  have hunit := twoPow_pos (floorLog2 q - digits + 1)
  have hsplit : twoPow (floorLog2 q) =
      twoPow ((digits - 1 : Nat) : Int) * twoPow (floorLog2 q - digits + 1) := by
    rw [← twoPow_add]
    congr 1
    omega
  have hle : (((2 ^ (digits - 1) : Nat) : Int) : Rat) ≤ q / twoPow (floorLog2 q - digits + 1) := by
    rw [le_div_iff₀ hunit, Int.cast_natCast, ← twoPow_natCast, ← hsplit]
    exact twoPow_floorLog2_le hq
  have hround := roundHalfEven_mono hle
  rw [roundHalfEven_intCast] at hround
  rw [toBits_of_pos hq, hsplit, twoPow_natCast]
  refine mul_le_mul_of_nonneg_right ?_ hunit.le
  exact_mod_cast hround

end Digits

/-! ### Order -/

/-- Whether rounding keeps the order of numbers that are not negative, as well as their signs. -/
structure KeepsOrder (round : Rounding) : Prop where
  keepsSign : round.KeepsSign
  mono : ∀ p q, 0 ≤ p → p ≤ q → round p ≤ round q

theorem keepsOrder_exact : exact.KeepsOrder := ⟨keepsSign_exact, fun _ _ _ hpq => hpq⟩

/-- **Significant digits keep the order**, however few they are. -/
theorem keepsOrder_toBits {digits : Nat} (hdigits : 0 < digits) : (toBits digits).KeepsOrder where
  keepsSign := keepsSign_toBits hdigits
  mono p q hp hpq := by
    rcases hp.eq_or_lt with rfl | hp
    · rw [(keepsSign_toBits hdigits).zero]
      exact (keepsSign_toBits hdigits).nonneg hpq
    have hq := hp.trans_le hpq
    rcases (floorLog2_mono hp hpq).eq_or_lt with heq | hlt
    · -- the same first digit means the same unit
      rw [toBits_of_pos hp, toBits_of_pos hq, heq]
      have hunit := twoPow_pos (floorLog2 q - digits + 1)
      refine mul_le_mul_of_nonneg_right ?_ hunit.le
      exact_mod_cast roundHalfEven_mono (div_le_div_of_nonneg_right hpq hunit.le)
    · calc toBits digits p ≤ twoPow (floorLog2 p + 1) := toBits_le_twoPow hp
        _ ≤ twoPow (floorLog2 q) := twoPow_mono (Int.add_one_le_iff.mpr hlt)
        _ ≤ toBits digits q := twoPow_le_toBits hdigits hq

theorem keepsOrder_double : double.KeepsOrder := keepsOrder_toBits (by decide)

end Rounding

end CommandPrompt
