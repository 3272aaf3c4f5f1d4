import ThalerNodelib.Rounding
import ThalerNodelib.Types
import Mathlib.Data.NNRat.Floor

/-!
Amounts in the basic unit and in CRO. The arithmetic of bignumber.js in its
default configuration: multiplication is exact, division rounds to 20 decimal
places. A zero has a sign, which a rounded quotient keeps and `isNegative` reads.
-/
namespace ThalerNodelib.Units

open Js ThalerNodelib.Types Rounding

/-- A bignumber.js value with its sign. -/
inductive SignedBigNumber
  | nan
  | infinity (negative : Bool)
  | finite (negative : Bool) (magnitude : ℚ≥0)
  deriving DecidableEq

namespace SignedBigNumber

/-- The number, never the negative zero. -/
def ofRat (q : ℚ) : SignedBigNumber := finite (decide (q < 0)) (Rat.nnabs q)

/-- What every comparison sees: the zeros are equal. -/
def value : SignedBigNumber → BigNumber
  | nan => .nan
  | infinity negative => .infinity negative
  | finite negative magnitude => .finite (if negative then -magnitude else magnitude)

def isInteger (x : SignedBigNumber) : Bool := x.value.isInteger

def isNegative : SignedBigNumber → Bool
  | nan => false
  | infinity negative => negative
  | finite negative _ => negative

def isGreaterThan (x : SignedBigNumber) (y : ℚ) : Bool :=
  match x.value with
  | .nan => false
  | .infinity negative => !negative
  | .finite q => decide (y < q)

def multipliedBy : SignedBigNumber → SignedBigNumber → SignedBigNumber
  | nan, _ => nan
  | _, nan => nan
  | infinity a, infinity b => infinity (a != b)
  | infinity a, finite b y => if y = 0 then nan else infinity (a != b)
  | finite a x, infinity b => if x = 0 then nan else infinity (a != b)
  | finite a x, finite b y => finite (a != b) (x * y)

def dividedBy : SignedBigNumber → SignedBigNumber → SignedBigNumber
  | nan, _ => nan
  | _, nan => nan
  | infinity _, infinity _ => nan
  | infinity a, finite b _ => infinity (a != b)
  | finite a _, infinity b => finite (a != b) 0
  | finite a x, finite b y =>
    if y = 0 then if x = 0 then nan else infinity (a != b)
    else finite (a != b) (roundHalfUp BigNumber.decimalPlaces (x / y))

end SignedBigNumber

inductive UnitEnum
  | basicUnit
  | cro
  deriving DecidableEq, Repr

def croDecimal : SignedBigNumber := .ofRat 100000000

def maxCro : ℚ := 100000000000

def verifyCRO (value : SignedBigNumber) : Except JsError Unit := do
  if !(value.multipliedBy croDecimal).isInteger then
    throw (.error "value exceed maximum number of decimal places")
  if value.isNegative then
    throw (.error "value cannot be negative")
  if value.isGreaterThan maxCro then
    throw (.error "value exceed maximum CRO supply")

def toCRO (value : SignedBigNumber) (fromUnit : UnitEnum) : Except JsError SignedBigNumber := do
  let cro := match fromUnit with
    | .basicUnit => value.dividedBy croDecimal
    | .cro => value
  verifyCRO cro
  return cro

def fromCRO (value : SignedBigNumber) (toUnit : UnitEnum) : Except JsError SignedBigNumber := do
  verifyCRO value
  match toUnit with
  | .basicUnit => return value.multipliedBy croDecimal
  | .cro => return value

/-! What the functions accept, and what they answer. -/

variable {negative : Bool} {m : ℚ≥0} {x y : SignedBigNumber}

theorem croDecimal_eq : croDecimal = .finite false (10 ^ 8) := by decide +kernel

theorem verifyCRO_iff :
    verifyCRO x = .ok () ↔ (x.multipliedBy croDecimal).isInteger = true ∧
      x.isNegative = false ∧ x.isGreaterThan maxCro = false := by
  constructor
  · intro h
    obtain ⟨hinteger, h⟩ := ite_throw_bind_eq_ok.mp h
    obtain ⟨hnegative, h⟩ := ite_throw_bind_eq_ok.mp h
    obtain ⟨hgreater, -⟩ := ite_throw_eq_ok.mp h
    exact ⟨by simpa using hinteger, by simpa using hnegative, by simpa using hgreater⟩
  · intro h
    obtain ⟨hinteger, hnegative, hgreater⟩ := h
    refine ite_throw_bind_eq_ok.mpr ⟨by simp [hinteger], ite_throw_bind_eq_ok.mpr ⟨by
      simp [hnegative], ite_throw_eq_ok.mpr ⟨by simp [hgreater], rfl⟩⟩⟩

theorem isInteger_iff : (SignedBigNumber.finite false m).isInteger = true ↔ ∃ n : ℕ, m = n := by
  have hden : ((m : ℚ)).den = 1 ↔ ∃ n : ℕ, m = n := by
    constructor
    · intro h
      refine ⟨(m : ℚ).num.toNat, ?_⟩
      have hnat := natCast_num_toNat h (Rat.num_nonneg.mpr m.2)
      exact_mod_cast hnat.symm
    · intro h
      obtain ⟨n, rfl⟩ := h
      simp
  simpa [SignedBigNumber.isInteger, SignedBigNumber.value, BigNumber.isInteger] using hden

/-- The limit in CRO is the limit of the coins. -/
theorem isGreaterThan_maxCro_iff {n : ℕ} :
    (SignedBigNumber.finite false (n / 10 ^ 8)).isGreaterThan maxCro = false ↔ n ≤ maxCoin := by
  have hunit : (0 : ℚ≥0) < 10 ^ 8 := by norm_num
  have hlimit : (10 : ℚ≥0) ^ 11 * 10 ^ 8 = (maxCoin : ℕ) := by norm_num [maxCoin]
  have hle : (SignedBigNumber.finite false (n / 10 ^ 8)).isGreaterThan maxCro = false ↔
      (n : ℚ≥0) / 10 ^ 8 ≤ 10 ^ 11 := by
    rw [← NNRat.coe_le_coe, SignedBigNumber.isGreaterThan, SignedBigNumber.value]
    norm_num [maxCro]
  rw [hle, div_le_iff₀ hunit, hlimit, Nat.cast_le]

/-- The amounts of CRO that pass the checks are the coins, in CRO. -/
theorem verifyCRO_eq_ok :
    verifyCRO (.finite negative m) = .ok () ↔
      negative = false ∧ ∃ n : ℕ, n ≤ maxCoin ∧ m = n / 10 ^ 8 := by
  have hunit : (10 : ℚ≥0) ^ 8 ≠ 0 := by norm_num
  rw [verifyCRO_iff, croDecimal_eq]
  cases negative with
  | true => simp [SignedBigNumber.isNegative]
  | false =>
    rw [SignedBigNumber.multipliedBy, bne_self_eq_false, isInteger_iff]
    constructor
    · intro h
      obtain ⟨⟨n, hn⟩, -, hle⟩ := h
      have hm : m = n / 10 ^ 8 := (eq_div_iff hunit).mpr hn
      rw [hm, isGreaterThan_maxCro_iff] at hle
      exact ⟨rfl, n, hle, hm⟩
    · intro h
      obtain ⟨-, n, hn, rfl⟩ := h
      exact ⟨⟨n, div_mul_cancel₀ _ hunit⟩, rfl, isGreaterThan_maxCro_iff.mpr hn⟩

theorem toCRO_eq_ok :
    toCRO (.finite negative m) .basicUnit = .ok y ↔
      negative = false ∧ ∃ n : ℕ, n ≤ maxCoin ∧
        ((n : ℚ≥0) * 10 ^ 12 ≤ m * 10 ^ 12 + 1 / 2 ∧ m * 10 ^ 12 + 1 / 2 < n * 10 ^ 12 + 1) ∧
        y = .finite false (n / 10 ^ 8) := by
  have hunit : (10 : ℚ≥0) ^ 8 ≠ 0 := by norm_num
  have hplaces : m / 10 ^ 8 * 10 ^ (8 + 12) = m * 10 ^ 12 := by
    rw [pow_add, ← mul_assoc, div_mul_cancel₀ _ hunit]
  have hround : ∀ n : ℕ, roundHalfUp BigNumber.decimalPlaces (m / 10 ^ 8) = (n : ℚ≥0) / 10 ^ 8 ↔
      (n : ℚ≥0) * 10 ^ 12 ≤ m * 10 ^ 12 + 1 / 2 ∧ m * 10 ^ 12 + 1 / 2 < n * 10 ^ 12 + 1 := by
    intro n
    have h := roundHalfUp_eq_coarse_iff (m := n) 8 12 (zero_le (a := m / 10 ^ 8))
    rwa [hplaces] at h
  have hdivided : SignedBigNumber.dividedBy (.finite negative m) croDecimal =
      .finite negative (roundHalfUp BigNumber.decimalPlaces (m / 10 ^ 8)) := by
    rw [croDecimal_eq, SignedBigNumber.dividedBy, if_neg hunit, Bool.bne_false]
  constructor
  · intro h
    obtain ⟨_, hverify, h⟩ := bind_eq_ok.mp h
    have hcro := Except.ok.inj h
    dsimp only at hverify hcro
    rw [hdivided] at hverify hcro
    obtain ⟨hneg, n, hn, hm⟩ := verifyCRO_eq_ok.mp hverify
    exact ⟨hneg, n, hn, (hround n).mp hm, by rw [← hcro, hneg, hm]⟩
  · intro h
    obtain ⟨hneg, n, hn, hm, rfl⟩ := h
    have hcro := (hround n).mpr hm
    refine bind_eq_ok.mpr ⟨(), ?_, ?_⟩
    · dsimp only
      rw [hdivided]
      exact verifyCRO_eq_ok.mpr ⟨hneg, n, hn, hcro⟩
    · dsimp only
      rw [hdivided, hneg, hcro]
      rfl

theorem fromCRO_eq_ok :
    fromCRO (.finite negative m) .basicUnit = .ok y ↔
      negative = false ∧ ∃ n : ℕ, n ≤ maxCoin ∧ m = n / 10 ^ 8 ∧ y = .finite false n := by
  have hunit : (10 : ℚ≥0) ^ 8 ≠ 0 := by norm_num
  have hmultiplied : ∀ n : ℕ, SignedBigNumber.multipliedBy (.finite false (n / 10 ^ 8))
      croDecimal = .finite false n := by
    intro n
    rw [croDecimal_eq, SignedBigNumber.multipliedBy, Bool.bne_false, div_mul_cancel₀ _ hunit]
  constructor
  · intro h
    obtain ⟨_, hverify, h⟩ := bind_eq_ok.mp h
    obtain ⟨rfl, n, hn, rfl⟩ := verifyCRO_eq_ok.mp hverify
    have hy := Except.ok.inj h
    rw [hmultiplied] at hy
    exact ⟨rfl, n, hn, rfl, hy.symm⟩
  · intro h
    obtain ⟨rfl, n, hn, rfl, rfl⟩ := h
    refine bind_eq_ok.mpr ⟨(), verifyCRO_eq_ok.mpr ⟨rfl, n, hn, rfl⟩, ?_⟩
    exact congrArg Except.ok (hmultiplied n)

/-! The same for numbers. -/

variable {v c : ℚ}

theorem ofRat_coe (m : ℚ≥0) : SignedBigNumber.ofRat m = .finite false m := by
  have habs : Rat.nnabs m = m := by
    apply NNRat.ext
    rw [Rat.coe_nnabs]
    exact abs_of_nonneg m.2
  simp [SignedBigNumber.ofRat, habs]

theorem ofRat_natCast (n : ℕ) : SignedBigNumber.ofRat n = .finite false n := by
  exact_mod_cast ofRat_coe (n : ℚ≥0)

theorem ofRat_coin (n : ℕ) : SignedBigNumber.ofRat (n / 10 ^ 8) = .finite false (n / 10 ^ 8) := by
  have h := ofRat_coe ((n : ℚ≥0) / 10 ^ 8)
  push_cast at h
  exact h

theorem ofRat_of_neg {q : ℚ} (hq : q < 0) :
    SignedBigNumber.ofRat q = .finite true (Rat.nnabs q) := by
  simp [SignedBigNumber.ofRat, hq]

theorem value_ofRat (q : ℚ) : (SignedBigNumber.ofRat q).value = .finite q := by
  by_cases hq : q < 0
  · simp [SignedBigNumber.ofRat, SignedBigNumber.value, hq, abs_of_neg]
  · simp [SignedBigNumber.ofRat, SignedBigNumber.value, hq, abs_of_nonneg (not_lt.mp hq)]

theorem ofRat_inj {p q : ℚ} (h : SignedBigNumber.ofRat p = .ofRat q) : p = q := by
  have hvalue := congrArg SignedBigNumber.value h
  rw [value_ofRat, value_ofRat] at hvalue
  exact BigNumber.finite.inj hvalue

/-- A number is within rounding of `n`: half a unit of the twelfth decimal place. -/
def Near (v : ℚ) (n : ℕ) : Prop := n - 5 / 10 ^ 13 ≤ v ∧ v < n + 5 / 10 ^ 13

theorem near_self (n : ℕ) : Near n n := by
  constructor
  · linarith
  · linarith

theorem Near.unique {n k : ℕ} (hn : Near v n) (hk : Near v k) : n = k := by
  obtain ⟨hn, hn'⟩ := hn
  obtain ⟨hk, hk'⟩ := hk
  have hle : (n : ℚ) < k + 1 := by linarith
  have hge : (k : ℚ) < n + 1 := by linarith
  have hle' : n < k + 1 := by exact_mod_cast hle
  have hge' : k < n + 1 := by exact_mod_cast hge
  omega

theorem near_coe_iff {n : ℕ} :
    Near m n ↔
      (n : ℚ≥0) * 10 ^ 12 ≤ m * 10 ^ 12 + 1 / 2 ∧ m * 10 ^ 12 + 1 / 2 < n * 10 ^ 12 + 1 := by
  rw [← NNRat.coe_le_coe, ← NNRat.coe_lt_coe]
  push_cast
  constructor
  · intro h
    obtain ⟨hlow, hhigh⟩ := h
    constructor
    · linarith
    · linarith
  · intro h
    obtain ⟨hlow, hhigh⟩ := h
    constructor
    · linarith
    · linarith

/-- `toCRO` accepts what is near a coin, as that coin. -/
theorem toCRO_ofRat :
    toCRO (.ofRat v) .basicUnit = .ok y ↔
      0 ≤ v ∧ ∃ n : ℕ, n ≤ maxCoin ∧ Near v n ∧ y = .ofRat (n / 10 ^ 8) := by
  by_cases hv : 0 ≤ v
  · obtain ⟨m, rfl⟩ : ∃ m : ℚ≥0, v = m := ⟨⟨v, hv⟩, rfl⟩
    rw [ofRat_coe, toCRO_eq_ok, eq_self, true_and, and_iff_right hv]
    simp only [near_coe_iff, ofRat_coin]
  · rw [ofRat_of_neg (not_le.mp hv), toCRO_eq_ok]
    simp [hv]

/-- `fromCRO` accepts the coins in CRO. -/
theorem fromCRO_ofRat :
    fromCRO (.ofRat c) .basicUnit = .ok y ↔
      ∃ n : ℕ, n ≤ maxCoin ∧ c = n / 10 ^ 8 ∧ y = .ofRat n := by
  constructor
  · intro h
    by_cases hc : 0 ≤ c
    · obtain ⟨m, rfl⟩ : ∃ m : ℚ≥0, c = m := ⟨⟨c, hc⟩, rfl⟩
      rw [ofRat_coe] at h
      obtain ⟨-, n, hn, rfl, rfl⟩ := fromCRO_eq_ok.mp h
      exact ⟨n, hn, by push_cast; rfl, (ofRat_natCast n).symm⟩
    · rw [ofRat_of_neg (not_le.mp hc)] at h
      cases (fromCRO_eq_ok.mp h).1
  · intro h
    obtain ⟨n, hn, rfl, rfl⟩ := h
    rw [ofRat_coin, ofRat_natCast]
    exact fromCRO_eq_ok.mpr ⟨rfl, n, hn, rfl, rfl⟩

/-- At `v` the conversion accepts the coins and nothing else, and is exact. -/
def ToCROExact (v : ℚ) : Prop :=
  ((∃ cro, toCRO (.ofRat v) .basicUnit = .ok cro) ↔ ∃ n : ℕ, n ≤ 10 ^ 19 ∧ v = n) ∧
  ∀ cro, toCRO (.ofRat v) .basicUnit = .ok cro →
    cro = .ofRat (v / 10 ^ 8) ∧ fromCRO cro .basicUnit = .ok (.ofRat v)

/-- A positive number that is no integer, but is rounded to one in the range. -/
def RoundedToCoin (v : ℚ) : Prop := 0 < v ∧ ∃ n : ℕ, n ≤ 10 ^ 19 ∧ v ≠ n ∧ Near v n

theorem eq_of_near {n : ℕ} (hexact : ¬ RoundedToCoin v) (hv : 0 ≤ v) (hn : n ≤ 10 ^ 19)
    (hnear : Near v n) : v = n := by
  by_contra hne
  apply hexact
  refine ⟨lt_of_le_of_ne hv ?_, n, hn, hne, hnear⟩
  intro hzero
  apply hne
  have hnear' : Near v 0 := by
    rw [← hzero]
    exact near_self 0
  rw [← hzero, hnear.unique hnear', Nat.cast_zero]

/-- The checks see the rounded quotient, so the conversion is right exactly at
the numbers that are not rounded to a coin. -/
theorem toCRO_exact_iff (v : ℚ) : ToCROExact v ↔ ¬ RoundedToCoin v := by
  constructor
  · intro h hrounded
    obtain ⟨hpos, n, hn, hne, hnear⟩ := hrounded
    obtain ⟨k, -, hk⟩ := h.1.mp ⟨_, toCRO_ofRat.mpr ⟨hpos.le, n, hn, hnear, rfl⟩⟩
    have hkn : k = n := (hk ▸ near_self k : Near v k).unique hnear
    exact hne (hkn ▸ hk)
  · intro hexact
    constructor
    · constructor
      · intro h
        obtain ⟨cro, hcro⟩ := h
        obtain ⟨hv, n, hn, hnear, -⟩ := toCRO_ofRat.mp hcro
        exact ⟨n, hn, eq_of_near hexact hv hn hnear⟩
      · intro h
        obtain ⟨n, hn, rfl⟩ := h
        exact ⟨_, toCRO_ofRat.mpr ⟨Nat.cast_nonneg n, n, hn, near_self n, rfl⟩⟩
    · intro cro hcro
      obtain ⟨hv, n, hn, hnear, rfl⟩ := toCRO_ofRat.mp hcro
      obtain rfl := eq_of_near hexact hv hn hnear
      exact ⟨rfl, fromCRO_ofRat.mpr ⟨n, hn, rfl, rfl⟩⟩

/-- A little more than one basic unit is converted to one. -/
theorem toCRO_rounds_above_one :
    toCRO (.ofRat (1 + 1 / 10 ^ 13)) .basicUnit = .ok (.ofRat (1 / 10 ^ 8)) ∧
      ¬ ToCROExact (1 + 1 / 10 ^ 13) := by
  have hnear : Near (1 + 1 / 10 ^ 13) 1 := by
    constructor
    · norm_num
    · norm_num
  refine ⟨toCRO_ofRat.mpr ⟨by norm_num, 1, by norm_num [maxCoin], hnear, by norm_num⟩, ?_⟩
  intro h
  obtain ⟨n, -, hn⟩ := h.1.mp
    ⟨_, toCRO_ofRat.mpr ⟨by norm_num, 1, by norm_num [maxCoin], hnear, rfl⟩⟩
  have hone : n = 1 := (hn ▸ near_self n : Near (1 + 1 / 10 ^ 13) n).unique hnear
  rw [hone] at hn
  norm_num at hn

/-- Converting to the basic unit and back gives the amount again. -/
theorem toCRO_undoes_fromCRO :
    (∀ c : ℚ,
      ((∃ b, fromCRO (.ofRat c) .basicUnit = .ok b) ↔
        0 ≤ c ∧ (∃ k : ℤ, c = k / 10 ^ 8) ∧ c ≤ 10 ^ 11) ∧
      ∀ b, fromCRO (.ofRat c) .basicUnit = .ok b →
        (∃ n : ℕ, n ≤ 10 ^ 19 ∧ b = .ofRat n) ∧ owCoin b.value = none ∧
        toCRO b .basicUnit = .ok (.ofRat c)) ∧
    ∀ c c' b, fromCRO (.ofRat c) .basicUnit = .ok b → fromCRO (.ofRat c') .basicUnit = .ok b →
      c = c' := by
  refine ⟨fun c => ⟨⟨?_, ?_⟩, ?_⟩, ?_⟩
  · intro h
    obtain ⟨b, hb⟩ := h
    obtain ⟨n, hn, rfl, -⟩ := fromCRO_ofRat.mp hb
    have hcast : (n : ℚ) ≤ 10 ^ 19 := by exact_mod_cast hn
    exact ⟨by positivity, ⟨n, by rw [Int.cast_natCast]⟩, by linarith⟩
  · intro h
    obtain ⟨hc, ⟨k, rfl⟩, hle⟩ := h
    have hpos : (0 : ℚ) ≤ k := by linarith
    obtain ⟨n, rfl⟩ := Int.eq_ofNat_of_zero_le (Int.cast_nonneg_iff.mp hpos)
    rw [Int.cast_natCast] at hle ⊢
    have hcast : (n : ℚ) ≤ 10 ^ 19 := by linarith
    exact ⟨_, fromCRO_ofRat.mpr ⟨n, by exact_mod_cast hcast, rfl, rfl⟩⟩
  · intro b hb
    obtain ⟨n, hn, rfl, rfl⟩ := fromCRO_ofRat.mp hb
    refine ⟨⟨n, hn, rfl⟩, ?_, ?_⟩
    · rw [value_ofRat, owCoin_iff]
      exact ⟨n, hn, rfl⟩
    · exact toCRO_ofRat.mpr ⟨Nat.cast_nonneg n, n, hn, near_self n, rfl⟩
  · intro c c' b hb hb'
    obtain ⟨n, -, rfl, rfl⟩ := fromCRO_ofRat.mp hb
    obtain ⟨k, -, rfl, hk⟩ := fromCRO_ofRat.mp hb'
    rw [ofRat_inj hk]

end ThalerNodelib.Units
