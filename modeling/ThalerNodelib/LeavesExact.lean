import ThalerNodelib.Leaves
import ThalerNodelib.Loops

/-!
The loop of `transfer_address_leaves` in unbounded arithmetic, and when the one
in 64 bits does the same. Its result runs through the binomial coefficients up
to the one asked for. So a small coefficient does not keep the loop in range:
from 68 signers on the way to a small one on the far side leads over the
largest.
-/
namespace ThalerNodelib.NativeTransfer

open Binomial Loops

/-- One iteration without a bound on the numbers; `none` where it divides by
zero or counts `n` below zero. -/
def Leaves.iterateExact (s : Leaves) : Option Leaves :=
  let gcd := s.result.gcd s.d
  if gcd = 0 then none
  else if s.d / gcd = 0 then none
  else if s.n = 0 then none
  else some {
    result := s.result / gcd * (s.n / (s.d / gcd))
    d := s.d + 1
    n := s.n - 1 }

/-- What holds of the variables where the condition of the loop is checked. -/
structure Leaves.Invariant (n : ℕ) (s : Leaves) : Prop where
  d_pos : 1 ≤ s.d
  n_eq : s.n + (s.d - 1) = n
  result_eq : s.result = n.choose (s.d - 1)

/-- The divisions of an iteration leave no rest, and nothing falls below zero. -/
structure Leaves.ExactIteration (s : Leaves) : Prop where
  result_dvd : s.result.gcd s.d ∣ s.result
  n_dvd : s.d / s.result.gcd s.d ∣ s.n
  divisor_ne_zero : s.d / s.result.gcd s.d ≠ 0
  n_pos : 0 < s.n

/-- No operation of an iteration in 64 bits wraps or divides by zero. -/
structure Leaves.NoWrap (s : Leaves) : Prop where
  gcd_ne_zero : s.result.gcd s.d ≠ 0
  divisor_ne_zero : s.d / s.result.gcd s.d ≠ 0
  product : s.result / s.result.gcd s.d * (s.n / (s.d / s.result.gcd s.d)) < 2 ^ 64
  d : s.d + 1 < 2 ^ 64
  n : 0 < s.n

/-- Every iteration of `transfer_address_leaves` stays in range. -/
def Clean (totalSigners requiredSigners : ℕ) : Prop :=
  ∀ s, Head (fun s : Leaves => s.d ≤ requiredSigners) Leaves.iterate
    { n := totalSigners, d := 1, result := 1 } s → s.d ≤ requiredSigners → s.NoWrap

variable {n k : ℕ} {s t : Leaves}

theorem Leaves.Invariant.start (n : ℕ) : Leaves.Invariant n { n := n, d := 1, result := 1 } where
  d_pos := le_refl 1
  n_eq := rfl
  result_eq := (Nat.choose_zero_right n).symm

theorem Leaves.Invariant.exactIteration (h : s.Invariant n) (hd : s.d ≤ n) :
    s.ExactIteration where
  result_dvd := Nat.gcd_dvd_left _ _
  n_dvd := by
    have hpos := h.d_pos
    have hn := h.n_eq
    obtain ⟨j, hj⟩ : ∃ j, s.d = j + 1 := ⟨s.d - 1, by omega⟩
    apply div_gcd_dvd h.d_pos (x := n.choose (j + 1))
    have hrunning : s.n = n - j := by omega
    rw [h.result_eq, hj, hrunning, Nat.add_sub_cancel]
    exact Nat.choose_succ_right_eq n j
  divisor_ne_zero := by
    have hgcd : 0 < s.result.gcd s.d := Nat.gcd_pos_of_pos_right _ h.d_pos
    have hquot := Nat.div_pos (Nat.le_of_dvd h.d_pos (Nat.gcd_dvd_right s.result s.d)) hgcd
    omega
  n_pos := by
    have hpos := h.d_pos
    have hn := h.n_eq
    omega

/-- An iteration keeps the invariant: it goes from one coefficient to the next. -/
theorem Leaves.Invariant.iterateExact (h : s.Invariant n) (hd : s.d ≤ n) :
    ∃ t, s.iterateExact = some t ∧ t.Invariant n ∧ t.d = s.d + 1 := by
  have hexact := h.exactIteration hd
  have hpos := h.d_pos
  have hn := h.n_eq
  have hgcd : s.result.gcd s.d ≠ 0 := (Nat.gcd_pos_of_pos_right _ hpos).ne'
  obtain ⟨j, hj⟩ : ∃ j, s.d = j + 1 := ⟨s.d - 1, by omega⟩
  have hrunning : s.n = n - j := by omega
  refine ⟨⟨s.n - 1, s.d + 1, reducedQuotient s.result s.n s.d⟩, ?_, ⟨?_, ?_, ?_⟩, rfl⟩
  · unfold Leaves.iterateExact
    rw [if_neg hgcd, if_neg hexact.divisor_ne_zero, if_neg hexact.n_pos.ne']
    rfl
  · exact Nat.le_add_left 1 s.d
  · change s.n - 1 + (s.d + 1 - 1) = n
    omega
  · change reducedQuotient s.result s.n s.d = n.choose (s.d + 1 - 1)
    rw [h.result_eq, hj, hrunning, Nat.add_sub_cancel, Nat.add_sub_cancel]
    exact reducedQuotient_choose n j

section

variable {body : Leaves → Option Leaves}

/-- A loop that iterates exactly keeps the invariant. -/
theorem Leaves.invariant_of_head (hk : k ≤ n)
    (hbody : ∀ s : Leaves, s.Invariant n → s.d ≤ k → body s = s.iterateExact)
    (h : Head (fun s : Leaves => s.d ≤ k) body { n := n, d := 1, result := 1 } s) :
    s.Invariant n := by
  apply h.invariant (fun s => s.Invariant n) (Leaves.Invariant.start n)
  intro s t hs hguard ht
  obtain ⟨t', ht', hinv, -⟩ := hs.iterateExact (hguard.trans hk)
  rw [hbody s hs hguard, ht'] at ht
  obtain rfl := Option.some.inj ht
  exact hinv

/-- Such a loop ends with the coefficient asked for. -/
theorem Leaves.whileLoop_eq_some (hk : k ≤ n)
    (hbody : ∀ s : Leaves, s.Invariant n → s.d ≤ k → body s = s.iterateExact) :
    ∃ s, whileLoop (fun s : Leaves => s.d ≤ k) body (k + 1) { n := n, d := 1, result := 1 } =
      some s ∧ s.result = n.choose k := by
  obtain ⟨s, hloop, ⟨hinv, hle⟩, hguard⟩ :=
    whileLoop_ends (fun s : Leaves => s.d ≤ k) body
      (fun s => s.Invariant n ∧ s.d ≤ k + 1) (fun s => k + 1 - s.d)
      (by
        intro s hs hguard
        obtain ⟨t, ht, hinv, hd⟩ := hs.1.iterateExact (hguard.trans hk)
        exact ⟨t, (hbody s hs.1 hguard).trans ht, ⟨hinv, by omega⟩, by omega⟩)
      (k + 1) { n := n, d := 1, result := 1 }
      ⟨Leaves.Invariant.start n, Nat.le_add_left 1 k⟩ (Nat.lt_succ_self _)
  have hd : s.d - 1 = k := by omega
  exact ⟨s, hloop, hd ▸ hinv.result_eq⟩

end

/-- Started with `k ≤ n`, the loop runs through the binomial coefficients
without a rest and ends with the one asked for. -/
theorem leaves_loop_exact {n k : ℕ} (hk : k ≤ n) :
    (∀ s, Head (fun s : Leaves => s.d ≤ k) Leaves.iterateExact { n := n, d := 1, result := 1 } s →
      s.Invariant n ∧ (s.d ≤ k → s.ExactIteration)) ∧
    ∃ s, whileLoop (fun s : Leaves => s.d ≤ k) Leaves.iterateExact (k + 1)
      { n := n, d := 1, result := 1 } = some s ∧ s.result = n.choose k := by
  refine ⟨?_, Leaves.whileLoop_eq_some hk fun _ _ _ => rfl⟩
  intro s hs
  have hinv := Leaves.invariant_of_head hk (fun _ _ _ => rfl) hs
  exact ⟨hinv, fun hd => hinv.exactIteration (hd.trans hk)⟩

theorem leaves_loop_exact_three_of_five :
    (∀ s, Head (fun s : Leaves => s.d ≤ 3) Leaves.iterateExact { n := 5, d := 1, result := 1 } s →
      s.Invariant 5 ∧ (s.d ≤ 3 → s.ExactIteration)) ∧
    ∃ s, whileLoop (fun s : Leaves => s.d ≤ 3) Leaves.iterateExact 4
      { n := 5, d := 1, result := 1 } = some s ∧ s.result = Nat.choose 5 3 :=
  leaves_loop_exact (by omega)

/-! The loop in 64 bits. -/

/-- In range an iteration in 64 bits is the exact one. -/
theorem Leaves.NoWrap.iterate_eq (h : s.NoWrap) (hn : s.n < 2 ^ 64) :
    s.iterate = s.iterateExact := by
  have hpos := h.n
  have hcount : (s.n + (2 ^ 64 - 1)) % 2 ^ 64 = s.n - 1 := by omega
  unfold Leaves.iterate Leaves.iterateExact
  simp only [Nat.mod_eq_of_lt h.product, Nat.mod_eq_of_lt h.d, hcount, if_neg h.n.ne']

/-- On the way an iteration is in range when the next coefficient is. -/
theorem Leaves.Invariant.noWrap_iff (h : s.Invariant n) (hd : s.d ≤ n) :
    s.NoWrap ↔ n.choose s.d < 2 ^ 64 ∧ s.d + 1 < 2 ^ 64 := by
  have hexact := h.exactIteration hd
  have hgcd : s.result.gcd s.d ≠ 0 := (Nat.gcd_pos_of_pos_right _ h.d_pos).ne'
  have hproduct : s.result / s.result.gcd s.d * (s.n / (s.d / s.result.gcd s.d)) =
      n.choose s.d := by
    obtain ⟨t, ht, hinv, htd⟩ := h.iterateExact hd
    unfold Leaves.iterateExact at ht
    rw [if_neg hgcd, if_neg hexact.divisor_ne_zero, if_neg hexact.n_pos.ne'] at ht
    obtain rfl := Option.some.inj ht
    exact hinv.result_eq
  constructor
  · intro hrange
    exact ⟨hproduct ▸ hrange.product, hrange.d⟩
  · intro hfits
    exact ⟨hgcd, hexact.divisor_ne_zero, hproduct.symm ▸ hfits.1, hfits.2, hexact.n_pos⟩

/-- The coefficients up to the one asked for fit in 64 bits, and so does the counter. -/
def Fits (n k : ℕ) : Prop :=
  (∀ j, j < k → n.choose (j + 1) < 2 ^ 64) ∧ k + 1 < 2 ^ 64

theorem Fits.iterate_eq (h : Fits n k) (hn : n < 2 ^ 64) (hk : k ≤ n) (s : Leaves)
    (hs : s.Invariant n) (hd : s.d ≤ k) : s.NoWrap ∧ s.iterate = s.iterateExact := by
  have hpos := hs.d_pos
  have hrunning := hs.n_eq
  have hcoefficient := h.1 (s.d - 1) (by omega)
  rw [Nat.sub_add_cancel hpos] at hcoefficient
  have hcounter := h.2
  have hrange := (hs.noWrap_iff (hd.trans hk)).mpr ⟨hcoefficient, by omega⟩
  exact ⟨hrange, hrange.iterate_eq (by omega)⟩

/-- In range the loop reaches every coefficient up to the one asked for. -/
theorem Clean.exists_head (h : Clean n k) (hn : n < 2 ^ 64) (hk : k ≤ n) (j : ℕ) (hj : j ≤ k) :
    ∃ s, Head (fun s : Leaves => s.d ≤ k) Leaves.iterate { n := n, d := 1, result := 1 } s ∧
      s.Invariant n ∧ s.d = j + 1 := by
  induction j with
  | zero => exact ⟨_, .start, Leaves.Invariant.start n, rfl⟩
  | succ j ih =>
    obtain ⟨s, hhead, hinv, hd⟩ := ih (by omega)
    have hguard : s.d ≤ k := by omega
    obtain ⟨t, ht, hinv', hd'⟩ := hinv.iterateExact (hguard.trans hk)
    have hrunning := hinv.n_eq
    have hiterate := ((h s hhead hguard).iterate_eq (by omega)).trans ht
    exact ⟨t, hhead.next hguard hiterate, hinv', by omega⟩

theorem clean_iff_fits (hn : n < 2 ^ 64) (hpos : 0 < k) (hk : k ≤ n) : Clean n k ↔ Fits n k := by
  constructor
  · intro h
    have hat : ∀ j, j < k → n.choose (j + 1) < 2 ^ 64 ∧ j + 1 + 1 < 2 ^ 64 := by
      intro j hj
      obtain ⟨s, hhead, hinv, hd⟩ := h.exists_head hn hk j hj.le
      have hguard : s.d ≤ k := by omega
      have hfits := (hinv.noWrap_iff (hguard.trans hk)).mp (h s hhead hguard)
      rwa [hd] at hfits
    refine ⟨fun j hj => (hat j hj).1, ?_⟩
    have hlast := (hat (k - 1) (by omega)).2
    omega
  · intro h s hhead hd
    have hinv := Leaves.invariant_of_head hk
      (fun s hs hd => (h.iterate_eq hn hk s hs hd).2) hhead
    exact (h.iterate_eq hn hk s hinv hd).1

/-- A run of the loop to its end is the outcome of `transfer_address_leaves`. -/
theorem leavesLoop_eq {required fuel : ℕ}
    (h : whileLoop (fun s : Leaves => s.d ≤ required) Leaves.iterate fuel s = some t) :
    leavesLoop required fuel s = .leaves (UInt16.ofNat t.result) := by
  induction fuel generalizing s with
  | zero => cases h
  | succ fuel ih =>
    rw [whileLoop] at h
    rw [leavesLoop]
    by_cases hguard : s.d ≤ required
    · rw [if_pos hguard] at h ⊢
      obtain ⟨s', hs', h⟩ := Option.bind_eq_some_iff.mp h
      rw [hs']
      exact ih h
    · rw [if_neg hguard] at h ⊢
      obtain rfl := Option.some.inj h
      rfl

theorem transferAddressLeaves_of_fits (h : Fits n k) (hn : n < 2 ^ 64) (hk : k ≤ n) :
    transferAddressLeaves n k = .leaves (UInt16.ofNat (n.choose k)) := by
  obtain ⟨s, hloop, hresult⟩ :=
    Leaves.whileLoop_eq_some hk fun s hs hd => (h.iterate_eq hn hk s hs hd).2
  rw [transferAddressLeaves, leavesLoop_eq hloop, hresult]

/-- On the near side of the middle the coefficients only grow. -/
theorem choose_le_choose_of_le_half {j : ℕ} (hj : j ≤ k) (hk : 2 * k ≤ n) :
    n.choose j ≤ n.choose k := by
  induction k, hj using Nat.le_induction with
  | base => exact le_refl _
  | succ k hjk ih => exact (ih (by omega)).trans (Nat.choose_le_succ_of_lt_half_left (by omega))

/-- A small coefficient is reached in range on the near side of the middle, and
on the far side as long as no coefficient is too large. -/
theorem fits_iff (hpos : 0 < k) (hk : k ≤ n) (hsmall : n.choose k ≤ 65535) :
    Fits n k ↔ 2 * k ≤ n ∨ n ≤ 67 := by
  constructor
  · intro h
    by_contra hnot
    have hlarge := le_choose_34 (n := n) (by omega)
    exact absurd (h.1 33 (by omega)) hlarge.not_gt
  · intro h
    rcases h with hhalf | hn
    · have hcount := choose_le_choose_of_le_half hpos hhalf
      rw [Nat.choose_one_right] at hcount
      refine ⟨?_, by omega⟩
      intro j hj
      have hle := choose_le_choose_of_le_half (show j + 1 ≤ k from hj) hhalf
      omega
    · refine ⟨?_, by omega⟩
      intro j hj
      exact (Nat.choose_le_choose _ hn).trans_lt (choose_67_fits (j + 1))

/-- For up to 65535 sets of signers the loop stays in range and counts them
exactly when at most half of the signers are required or there are at most 67. -/
theorem transfer_address_leaves_exact_iff {total required : UInt64}
    (hpos : 1 ≤ required.toNat) (hle : required.toNat ≤ total.toNat)
    (hsmall : total.toNat.choose required.toNat ≤ 65535) :
    (Clean total.toNat required.toNat ∧
      ∃ count, transferAddressLeaves total.toNat required.toNat = .leaves count ∧
        count.toNat = total.toNat.choose required.toNat) ↔
      2 * required.toNat ≤ total.toNat ∨ total.toNat ≤ 67 := by
  have hn := total.toNat_lt
  rw [clean_iff_fits hn hpos hle, ← fits_iff hpos hle hsmall]
  refine and_iff_left_of_imp ?_
  intro hfits
  refine ⟨_, transferAddressLeaves_of_fits hfits hn hle, ?_⟩
  rw [UInt16.toNat_ofNat', Nat.mod_eq_of_lt (by omega)]

theorem transfer_address_leaves_exact_two_of_three :
    (Clean (3 : UInt64).toNat (2 : UInt64).toNat ∧
      ∃ count, transferAddressLeaves (3 : UInt64).toNat (2 : UInt64).toNat = .leaves count ∧
        count.toNat = (3 : UInt64).toNat.choose (2 : UInt64).toNat) ↔
      2 * (2 : UInt64).toNat ≤ (3 : UInt64).toNat ∨ (3 : UInt64).toNat ≤ 67 :=
  transfer_address_leaves_exact_iff (by decide) (by decide) (by decide)

/-- With 68 of 68 signers there is one set, but no leaf is counted. -/
theorem all_of_68_signers_wrap :
    Nat.choose 68 68 = 1 ∧ transferAddressLeaves 68 68 = .leaves 0 ∧ ¬ Clean 68 68 := by
  refine ⟨Nat.choose_self 68, transferAddressLeaves_self (by omega), ?_⟩
  rw [clean_iff_fits (by omega) (by omega) (le_refl 68)]
  intro h
  exact absurd (h.1 33 (by omega)) (le_choose_34 (le_refl 68)).not_gt

end ThalerNodelib.NativeTransfer
