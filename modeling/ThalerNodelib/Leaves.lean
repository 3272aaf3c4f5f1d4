import ThalerNodelib.Binomial
import ThalerNodelib.NativeTransfer

/-!
The loop of `transfer_address_leaves`. As long as its products stay below
2^64 it computes binomial coefficients; started with equal numbers it does so
up to 67, ends with zero from 68 on, and divides by zero where the counter
wraps.
-/
namespace ThalerNodelib.NativeTransfer

open Binomial

/-- The `result` of the loop after `k` iterations. -/
def resultAfter (n : ℕ) : ℕ → ℕ
  | 0 => 1
  | k + 1 => reducedQuotient (resultAfter n k) (n - k) (k + 1) % 2 ^ 64

def stateAfter (n k : ℕ) : Leaves := ⟨n - k, (k + 1) % 2 ^ 64, resultAfter n k⟩

theorem resultAfter_lt (n k : ℕ) : resultAfter n k < 2 ^ 64 := by
  cases k with
  | zero => norm_num [resultAfter]
  | succ k => exact Nat.mod_lt _ (by positivity)

theorem resultAfter_step_le (n k : ℕ) :
    resultAfter n (k + 1) * (k + 1) ≤ resultAfter n k * (n - k) := by
  calc
    resultAfter n (k + 1) * (k + 1)
        ≤ reducedQuotient (resultAfter n k) (n - k) (k + 1) * (k + 1) :=
          Nat.mul_le_mul_right _ (Nat.mod_le _ _)
    _ ≤ resultAfter n k * (n - k) := reducedQuotient_mul_le _ _ _

/-- While the coefficients fit in 64 bits the loop computes them. -/
theorem resultAfter_eq_choose {n : ℕ} (hfits : ∀ k, k ≤ n → n.choose k < 2 ^ 64) (k : ℕ)
    (hk : k ≤ n) : resultAfter n k = n.choose k := by
  induction k with
  | zero => simp [resultAfter]
  | succ k ih =>
    rw [resultAfter, ih (by omega), reducedQuotient_choose, Nat.mod_eq_of_lt (hfits _ hk)]

theorem iterate_stateAfter {n k : ℕ} (hn : n < 2 ^ 64) (hk : k < n) :
    (stateAfter n k).iterate = some (stateAfter n (k + 1)) := by
  have hd : (k + 1) % 2 ^ 64 = k + 1 := Nat.mod_eq_of_lt (by omega)
  have hgcd : 0 < (resultAfter n k).gcd (k + 1) := Nat.gcd_pos_of_pos_right _ (Nat.succ_pos k)
  have hquot : 0 < (k + 1) / (resultAfter n k).gcd (k + 1) :=
    Nat.div_pos (Nat.le_of_dvd (Nat.succ_pos k) (Nat.gcd_dvd_right _ _)) hgcd
  have hcount : (n - k + (2 ^ 64 - 1)) % 2 ^ 64 = n - (k + 1) := by omega
  simp only [Leaves.iterate, stateAfter, hd]
  rw [if_neg (by omega), if_neg (by omega)]
  rw [hcount]
  rfl

/-- The loop passes through the states one after the other. -/
theorem leavesLoop_stateAfter {n required : ℕ} (hn : n < 2 ^ 64) (hrequired : required ≤ n)
    (k : ℕ) (hk : k ≤ required) :
    transferAddressLeaves n required =
      leavesLoop required (required - k + 1) (stateAfter n k) := by
  induction k with
  | zero => rfl
  | succ k ih =>
    have hd : (k + 1) % 2 ^ 64 ≤ required := (Nat.mod_le _ _).trans hk
    have hfuel : required - k + 1 = required - (k + 1) + 1 + 1 := by omega
    rw [ih (by omega), hfuel, leavesLoop, if_pos (show (stateAfter n k).d ≤ required from hd),
      iterate_stateAfter hn (by omega)]

theorem transferAddressLeaves_eq {n required : ℕ} (hn : n < 2 ^ 64) (hrequired : required ≤ n)
    (hfits : required + 1 < 2 ^ 64) :
    transferAddressLeaves n required = .leaves (UInt16.ofNat (resultAfter n required)) := by
  have hd : (stateAfter n required).d = required + 1 := Nat.mod_eq_of_lt hfits
  rw [leavesLoop_stateAfter hn hrequired required (le_refl _), leavesLoop, if_neg (by omega)]
  rfl

/-- With the greatest number the counter wraps to zero and the loop divides by it. -/
theorem transferAddressLeaves_saturated {n : ℕ} (hn : n + 1 = 2 ^ 64) :
    transferAddressLeaves n n = .panic := by
  have hd : (stateAfter n n).d = 0 := by
    change (n + 1) % 2 ^ 64 = 0
    rw [hn, Nat.mod_self]
  have hpanic : (stateAfter n n).iterate = none := by
    unfold Leaves.iterate
    simp only [hd, Nat.gcd_zero_right, Nat.zero_div, if_true, ite_self]
  rw [leavesLoop_stateAfter (by omega) (le_refl n) n (le_refl n), leavesLoop, if_pos (by omega),
    hpanic]

theorem choose_67_fits (k : ℕ) : Nat.choose 67 k < 2 ^ 64 := by
  have hmiddle : Nat.choose 67 33 < 2 ^ 64 := by
    rw [Nat.choose_eq_factorial_div_factorial (by omega)]
    decide +kernel
  exact lt_of_le_of_lt (Nat.choose_le_middle k 67) hmiddle

theorem le_choose_34 {n : ℕ} (hn : 68 ≤ n) : 2 ^ 64 ≤ n.choose 34 := by
  have hleast : 2 ^ 64 ≤ Nat.choose 68 34 := by
    rw [Nat.choose_eq_factorial_div_factorial (by omega)]
    decide +kernel
  exact hleast.trans (Nat.choose_le_choose 34 hn)

theorem resultAfter_self_small {n : ℕ} (hn : n ≤ 67) : resultAfter n n = 1 := by
  have hfits : ∀ k, k ≤ n → n.choose k < 2 ^ 64 := fun k _ =>
    lt_of_le_of_lt (Nat.choose_le_choose k hn) (choose_67_fits k)
  rw [resultAfter_eq_choose hfits n (le_refl n), Nat.choose_self]

/-- The products were cut off on the way up, so nothing is left on the way down. -/
theorem resultAfter_self_large {n : ℕ} (hn : 68 ≤ n) : resultAfter n n = 0 :=
  eq_zero_of_lt_choose (show 34 ≤ n by omega) (fun k _ _ => resultAfter_step_le n k)
    ((resultAfter_lt n 34).trans_le (le_choose_34 hn))

/-- The leaves of equal numbers of signers. -/
theorem transferAddressLeaves_self {n : ℕ} (hn : n < 2 ^ 64) :
    transferAddressLeaves n n =
      if n ≤ 67 then .leaves 1 else if n + 1 < 2 ^ 64 then .leaves 0 else .panic := by
  by_cases hsmall : n ≤ 67
  · rw [if_pos hsmall, transferAddressLeaves_eq hn (le_refl n) (by omega),
      resultAfter_self_small hsmall]
    rfl
  · rw [if_neg hsmall]
    by_cases hfits : n + 1 < 2 ^ 64
    · rw [if_pos hfits, transferAddressLeaves_eq hn (le_refl n) hfits,
        resultAfter_self_large (by omega)]
      rfl
    · rw [if_neg hfits, transferAddressLeaves_saturated (by omega)]

end ThalerNodelib.NativeTransfer
