import Mathlib.Algebra.Order.Floor.Semiring
import Mathlib.Algebra.Order.Field.Basic
import Mathlib.Tactic.FieldSimp
import Mathlib.Tactic.Ring

/-!
Rounding to a number of decimal places, a half upwards, of numbers from zero
on. A number is rounded to a multiple of a coarser unit exactly when it is
within half a unit of the last place of it.
-/
namespace ThalerNodelib.Rounding

variable {K : Type*} [Semifield K] [LinearOrder K] [IsStrictOrderedRing K] [FloorSemiring K]

/-- `x` to the nearest multiple of the last decimal place. -/
def roundHalfUp (places : ℕ) (x : K) : K := (⌊x * 10 ^ places + 1 / 2⌋₊ : K) / 10 ^ places

variable {x : K} {places m : ℕ}

theorem roundHalfUp_eq_iff (hx : 0 ≤ x) :
    roundHalfUp places x = (m : K) / 10 ^ places ↔
      (m : K) ≤ x * 10 ^ places + 1 / 2 ∧ x * 10 ^ places + 1 / 2 < m + 1 := by
  have hunit : (10 : K) ^ places ≠ 0 := pow_ne_zero _ (by norm_num)
  have hnonneg : 0 ≤ x * 10 ^ places + 1 / 2 :=
    add_nonneg (mul_nonneg hx (pow_nonneg (Nat.ofNat_nonneg 10) _)) one_half_pos.le
  rw [roundHalfUp, div_left_inj' hunit, Nat.cast_inj, Nat.floor_eq_iff hnonneg]

/-- Rounding to a multiple of a coarser unit. -/
theorem roundHalfUp_eq_coarse_iff (coarse fine : ℕ) (hx : 0 ≤ x) :
    roundHalfUp (coarse + fine) x = (m : K) / 10 ^ coarse ↔
      (m : K) * 10 ^ fine ≤ x * 10 ^ (coarse + fine) + 1 / 2 ∧
        x * 10 ^ (coarse + fine) + 1 / 2 < m * 10 ^ fine + 1 := by
  have hunit : (10 : K) ^ fine ≠ 0 := pow_ne_zero _ (by norm_num)
  have hcoarse : (m : K) / 10 ^ coarse = ((m * 10 ^ fine : ℕ) : K) / 10 ^ (coarse + fine) := by
    push_cast
    rw [pow_add, mul_div_mul_right _ _ hunit]
  rw [hcoarse, roundHalfUp_eq_iff hx]
  push_cast
  rfl

end ThalerNodelib.Rounding
