import Mathlib.Data.Nat.Choose.Basic
import Mathlib.Data.Nat.Choose.Sum
import Mathlib.Data.Nat.GCD.Basic
import Mathlib.Tactic.Linarith

/-!
Binomial coefficients by a loop that multiplies and divides in lowest terms.
One iteration takes a number `c` to `c / g * (m / (d / g))`, where `g` is the
gcd of `c` and `d`: the quotient of `c * m` by `d` where it is whole, and never
more than it. So the loop is exact as long as nothing is cut off, and a loop
that was cut off far enough below the largest coefficient ends with zero.
-/
namespace ThalerNodelib.Binomial

def reducedQuotient (c m d : ℕ) : ℕ := c / c.gcd d * (m / (d / c.gcd d))

theorem div_gcd_dvd {c m d x : ℕ} (hd : 0 < d) (h : x * d = c * m) : d / c.gcd d ∣ m := by
  have hg : 0 < c.gcd d := Nat.gcd_pos_of_pos_right c hd
  have hcop : Nat.Coprime (d / c.gcd d) (c / c.gcd d) :=
    (Nat.coprime_div_gcd_div_gcd hg).symm
  apply hcop.dvd_of_dvd_mul_left
  apply Nat.dvd_of_mul_dvd_mul_left hg
  have hc : c.gcd d * (c / c.gcd d) = c := Nat.mul_div_cancel' (Nat.gcd_dvd_left c d)
  have hdd : c.gcd d * (d / c.gcd d) = d := Nat.mul_div_cancel' (Nat.gcd_dvd_right c d)
  rw [hdd, ← mul_assoc, hc]
  exact ⟨x, by rw [← h, mul_comm]⟩

/-- Where the quotient is whole, it is what the iteration computes. -/
theorem reducedQuotient_eq {c m d x : ℕ} (hd : 0 < d) (h : x * d = c * m) :
    reducedQuotient c m d = x := by
  obtain ⟨q, hq⟩ := div_gcd_dvd hd h
  have hg : 0 < c.gcd d := Nat.gcd_pos_of_pos_right c hd
  have hc : c.gcd d * (c / c.gcd d) = c := Nat.mul_div_cancel' (Nat.gcd_dvd_left c d)
  have hdd : c.gcd d * (d / c.gcd d) = d := Nat.mul_div_cancel' (Nat.gcd_dvd_right c d)
  have hpos : 0 < d / c.gcd d := Nat.div_pos (Nat.le_of_dvd hd (Nat.gcd_dvd_right c d)) hg
  have hquot : m / (d / c.gcd d) = q := by
    rw [hq, Nat.mul_div_cancel_left q hpos]
  rw [reducedQuotient, hquot]
  apply Nat.eq_of_mul_eq_mul_right hd
  calc
    c / c.gcd d * q * d = c / c.gcd d * q * (c.gcd d * (d / c.gcd d)) := by rw [hdd]
    _ = c.gcd d * (c / c.gcd d) * (d / c.gcd d * q) := by ring
    _ = c * m := by rw [hc, ← hq]
    _ = x * d := h.symm

/-- The iteration never exceeds the quotient. -/
theorem reducedQuotient_mul_le (c m d : ℕ) : reducedQuotient c m d * d ≤ c * m := by
  have hc : c.gcd d * (c / c.gcd d) = c := Nat.mul_div_cancel' (Nat.gcd_dvd_left c d)
  have hdd : c.gcd d * (d / c.gcd d) = d := Nat.mul_div_cancel' (Nat.gcd_dvd_right c d)
  have hfloor : m / (d / c.gcd d) * (d / c.gcd d) ≤ m := Nat.div_mul_le_self m _
  calc
    reducedQuotient c m d * d
        = c / c.gcd d * (m / (d / c.gcd d)) * (c.gcd d * (d / c.gcd d)) := by
          rw [reducedQuotient, hdd]
    _ = c.gcd d * (c / c.gcd d) * (m / (d / c.gcd d) * (d / c.gcd d)) := by ring
    _ ≤ c * m := by
      rw [hc]
      exact Nat.mul_le_mul_left c hfloor

/-- One iteration goes from one binomial coefficient to the next. -/
theorem reducedQuotient_choose (n k : ℕ) :
    reducedQuotient (n.choose k) (n - k) (k + 1) = n.choose (k + 1) :=
  reducedQuotient_eq (Nat.succ_pos k) (Nat.choose_succ_right_eq n k)

/-- A sequence that grows no faster than the coefficients keeps its ratio to them. -/
theorem mul_choose_le {r : ℕ → ℕ} {n m : ℕ}
    (hstep : ∀ k, m ≤ k → k < n → r (k + 1) * (k + 1) ≤ r k * (n - k))
    (k : ℕ) (hmk : m ≤ k) (hkn : k ≤ n) : r k * n.choose m ≤ r m * n.choose k := by
  induction k, hmk using Nat.le_induction with
  | base => exact le_refl _
  | succ k hmk ih =>
    have hih := ih (by omega)
    have hk := hstep k hmk (by omega)
    apply Nat.le_of_mul_le_mul_right _ (Nat.succ_pos k)
    calc
      r (k + 1) * n.choose m * (k + 1) = r (k + 1) * (k + 1) * n.choose m := by ring
      _ ≤ r k * (n - k) * n.choose m := Nat.mul_le_mul_right _ hk
      _ = r k * n.choose m * (n - k) := by ring
      _ ≤ r m * n.choose k * (n - k) := Nat.mul_le_mul_right _ hih
      _ = r m * (n.choose k * (n - k)) := by ring
      _ = r m * n.choose (k + 1) * (k + 1) := by rw [← Nat.choose_succ_right_eq, mul_assoc]

/-- Such a sequence ends with zero if it was once below its coefficient. -/
theorem eq_zero_of_lt_choose {r : ℕ → ℕ} {n m : ℕ} (hmn : m ≤ n)
    (hstep : ∀ k, m ≤ k → k < n → r (k + 1) * (k + 1) ≤ r k * (n - k))
    (hlt : r m < n.choose m) : r n = 0 := by
  have h := mul_choose_le hstep n hmn (le_refl n)
  rw [Nat.choose_self, mul_one] at h
  by_contra hne
  have hpos : 1 ≤ r n := Nat.one_le_iff_ne_zero.mpr hne
  have hle : n.choose m ≤ r n * n.choose m := Nat.le_mul_of_pos_left _ hpos
  omega

end ThalerNodelib.Binomial
