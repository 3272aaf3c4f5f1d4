import ThalerNodelib.Js
import Mathlib.Data.Int.Log
import Mathlib.Data.List.TakeWhile
import Mathlib.Data.Rat.Floor

/-!
The text of a number: the fewest digits whose decimal the number is the nearest
double to, laid out by the size of the number.
-/
namespace ThalerNodelib.Js

/-- To the nearest integer, and halfway to the even one. -/
def roundHalfEven (q : ℚ) : ℕ :=
  let below := q.floor.toNat
  if q < below + 1 / 2 then below
  else if below + 1 / 2 < q then below + 1
  else if below % 2 = 0 then below else below + 1

/-- The double nearest to a number from zero on, below the greatest. -/
def toDouble (q : ℚ) : ℚ :=
  let unit : ℚ := 2 ^ max (Int.log 2 q - 52) (-1074)
  roundHalfEven (q / unit) * unit

/-- Digits, and the power of ten of the last one. -/
structure Decimal where
  digits : ℕ
  exponent : ℤ
  deriving DecidableEq, Repr

namespace Decimal

def value (d : Decimal) : ℚ := d.digits * 10 ^ d.exponent

/-- The decimals of `k` digits next to a positive number, the nearer one first. -/
def neighbours (q : ℚ) (k : ℕ) : List Decimal :=
  let exponent := Int.log 10 q + 1 - k
  let below : Decimal := ⟨(q / 10 ^ exponent).floor.toNat, exponent⟩
  let above : Decimal := ⟨below.digits + 1, exponent⟩
  if 2 * q < below.value + above.value ∨
      (2 * q = below.value + above.value ∧ below.digits % 2 = 0) then [below, above]
  else [above, below]

/-- The shortest decimal that is nearest to a positive double; 17 digits are
enough for each. -/
def shortest (q : ℚ) : Decimal :=
  (((List.range' 1 17).flatMap (neighbours q)).find? fun d => toDouble d.value = q).getD
    ⟨(q / 10 ^ (Int.log 10 q - 16)).floor.toNat, Int.log 10 q - 16⟩

/-- The point stands `n` places after the start of the digits. -/
def toChars (d : Decimal) : List Char :=
  let shown := Nat.toDigits 10 d.digits
  let n : ℤ := shown.length + d.exponent
  let digits := (shown.reverse.dropWhile (· == '0')).reverse
  if digits.length ≤ n ∧ n ≤ 21 then digits ++ List.replicate (n - digits.length).toNat '0'
  else if 0 < n ∧ n ≤ 21 then digits.take n.toNat ++ '.' :: digits.drop n.toNat
  else if -6 < n ∧ n ≤ 0 then '0' :: '.' :: (List.replicate (-n).toNat '0' ++ digits)
  else
    let exponent := 'e' :: (if n < 1 then '-' else '+') :: Nat.toDigits 10 (n - 1).natAbs
    if digits.length ≤ 1 then digits ++ exponent
    else digits.take 1 ++ '.' :: (digits.drop 1 ++ exponent)

end Decimal

/-- `toString()`. -/
def JsNumber.toString : JsNumber → String
  | nan => "NaN"
  | infinity negative => if negative then "-Infinity" else "Infinity"
  | finite q =>
    if q = 0 then "0"
    else String.ofList
      ((if q < 0 then ['-'] else []) ++ (Decimal.shortest |q|).toChars)

/-! The text of a natural number. -/

theorem roundHalfEven_natCast (n : ℕ) : roundHalfEven n = n := by
  simp [roundHalfEven, floor_natCast]

/-- The naturals below 2^53 are doubles. -/
theorem toDouble_natCast {n : ℕ} (hn : n < 2 ^ 53) : toDouble n = n := by
  have hlog : Nat.log 2 n ≤ 52 := by
    have hlt := Nat.log_lt_of_lt_pow' (by omega) hn
    omega
  obtain ⟨shift, hshift⟩ : ∃ shift, Nat.log 2 n + shift = 52 := ⟨52 - Nat.log 2 n, by omega⟩
  have hunit : max (Int.log 2 (n : ℚ) - 52) (-1074) = -(shift : ℤ) := by
    rw [Int.log_natCast]
    omega
  have hscaled : (n : ℚ) / 2 ^ (-(shift : ℤ)) = ((n * 2 ^ shift : ℕ) : ℚ) := by
    push_cast
    rw [zpow_neg, zpow_natCast, div_inv_eq_mul]
  simp only [toDouble, hunit, hscaled, roundHalfEven_natCast]
  rw [← hscaled, div_mul_cancel₀ _ (zpow_ne_zero _ (by norm_num))]

theorem toDigits_mul_pow {s : ℕ} (hs : 0 < s) (e : ℕ) :
    Nat.toDigits 10 (s * 10 ^ e) = Nat.toDigits 10 s ++ List.replicate e '0' := by
  induction e with
  | zero => simp
  | succ e ih =>
    have hdigits := Nat.toDigits_append_toDigits (b := 10) (d := 0) (by omega)
      (Nat.mul_pos hs (Nat.pow_pos (a := 10) (n := e) (by omega))) (by omega)
    have hpow : 10 * (s * 10 ^ e) + 0 = s * 10 ^ (e + 1) := by ring
    rw [hpow, ih, Nat.toDigits_zero] at hdigits
    rw [← hdigits, List.append_assoc, ← List.replicate_succ']

/-- The digits left out at the end are zeros. -/
theorem strip_append_zeros (l : List Char) :
    (l.reverse.dropWhile (· == '0')).reverse ++
      List.replicate (l.length - (l.reverse.dropWhile (· == '0')).reverse.length) '0' = l := by
  have hzeros : ∀ c ∈ l.reverse.takeWhile (· == '0'), c = '0' := by
    intro c hc
    simpa using List.mem_takeWhile_imp hc
  have hsplit := List.takeWhile_append_dropWhile (p := (· == '0')) (l := l.reverse)
  rw [List.eq_replicate_of_mem hzeros] at hsplit
  generalize l.reverse.dropWhile (· == '0') = rest at hsplit ⊢
  generalize (l.reverse.takeWhile (· == '0')).length = zeros at hsplit
  have hl : rest.reverse ++ List.replicate zeros '0' = l := by
    have hreverse := congrArg List.reverse hsplit
    rwa [List.reverse_append, List.reverse_replicate, List.reverse_reverse] at hreverse
  have hlength : l.length - rest.reverse.length = zeros := by
    rw [← hl, List.length_append, List.length_replicate, Nat.add_sub_cancel_left]
  rw [hlength, hl]

namespace Decimal

theorem toChars_natural {s e : ℕ} (hs : 0 < s) (hsmall : s * 10 ^ e < 10 ^ 21) :
    toChars ⟨s, e⟩ = Nat.toDigits 10 (s * 10 ^ e) := by
  have hlength : (Nat.toDigits 10 (s * 10 ^ e)).length ≤ 21 :=
    (Nat.length_toDigits_le_iff (by omega) (by omega)).mpr hsmall
  have hstrip := strip_append_zeros (Nat.toDigits 10 s)
  rw [toDigits_mul_pow hs, List.length_append, List.length_replicate] at hlength
  rw [toDigits_mul_pow hs]
  simp only [toChars]
  generalize ((Nat.toDigits 10 s).reverse.dropWhile (· == '0')).reverse = digits at hstrip ⊢
  have hdigits : digits.length ≤ (Nat.toDigits 10 s).length := by
    rw [← hstrip, List.length_append]
    omega
  have hzeros : ((Nat.toDigits 10 s).length + (e : ℤ) - digits.length).toNat =
      (Nat.toDigits 10 s).length - digits.length + e := by omega
  rw [if_pos (by omega), hzeros, List.replicate_add, ← List.append_assoc, hstrip]

theorem mem_neighbours {q : ℚ} {k : ℕ} {d : Decimal} :
    d ∈ neighbours q k ↔
      d = ⟨(q / 10 ^ (Int.log 10 q + 1 - k)).floor.toNat, Int.log 10 q + 1 - k⟩ ∨
      d = ⟨(q / 10 ^ (Int.log 10 q + 1 - k)).floor.toNat + 1, Int.log 10 q + 1 - k⟩ := by
  unfold neighbours
  dsimp only
  split
  · simp
  · simp [or_comm]

theorem floor_natCast_div_pow (n e : ℕ) :
    ((n : ℚ) / 10 ^ (e : ℤ)).floor.toNat = n / 10 ^ e := by
  have hfloor := Rat.floor_intCast_div_natCast (n : ℤ) (10 ^ e)
  push_cast at hfloor
  have hnat : ((n : ℚ) / 10 ^ (e : ℤ)).floor = ((n / 10 ^ e : ℕ) : ℤ) := by
    rw [zpow_natCast]
    push_cast
    exact hfloor
  rw [hnat, Int.toNat_natCast]

theorem mem_neighbours_natCast {n k e : ℕ} (he : Nat.log 10 n + 1 = k + e) {d : Decimal} :
    d ∈ neighbours n k ↔ d = ⟨(n / 10 ^ e : ℕ), e⟩ ∨ d = ⟨(n / 10 ^ e + 1 : ℕ), e⟩ := by
  have hexponent : Int.log 10 (n : ℚ) + 1 - k = e := by
    rw [Int.log_natCast]
    omega
  rw [mem_neighbours, hexponent, floor_natCast_div_pow]

/-- With so few digits that the last one stands before the point, the decimals
next to a natural number are natural numbers. -/
theorem neighbour_natural {n k : ℕ} (hpos : 0 < n) (hk : 1 ≤ k) (hle : k ≤ Nat.log 10 n + 1)
    {d : Decimal} (hd : d ∈ neighbours n k) :
    ∃ s e : ℕ, d = ⟨s, e⟩ ∧ s * 10 ^ e ≤ n + n := by
  obtain ⟨e, he⟩ : ∃ e, Nat.log 10 n + 1 = k + e := ⟨Nat.log 10 n + 1 - k, by omega⟩
  have hunit : 10 ^ e ≤ n := Nat.pow_le_of_le_log hpos.ne' (by omega)
  have hbelow : n / 10 ^ e * 10 ^ e ≤ n := Nat.div_mul_le_self n (10 ^ e)
  rcases (mem_neighbours_natCast he).mp hd with rfl | rfl
  · exact ⟨_, e, rfl, by omega⟩
  · refine ⟨_, e, rfl, ?_⟩
    rw [Nat.add_mul, Nat.one_mul]
    omega

theorem value_natural (s e : ℕ) : value ⟨s, e⟩ = (s * 10 ^ e : ℕ) := by
  rw [value, zpow_natCast]
  push_cast
  rfl

/-- A natural number is the shortest decimal nearest to it. -/
theorem shortest_natCast {n : ℕ} (hpos : 0 < n) (hn : n < 2 ^ 52) :
    ∃ s e : ℕ, shortest n = ⟨s, e⟩ ∧ s * 10 ^ e = n := by
  have hlog : Nat.log 10 n + 1 ≤ 17 := by
    have hlt := Nat.log_lt_of_lt_pow' (b := 10) (x := 17) (by omega) (show n < 10 ^ 17 by omega)
    omega
  -- the number itself is among the decimals of as many digits as it has
  have hself : ((List.range' 1 (Nat.log 10 n + 1)).flatMap (neighbours n)).find?
      (fun d => toDouble d.value = (n : ℚ)) |>.isSome := by
    have hmem : ⟨n, (0 : ℕ)⟩ ∈ neighbours n (Nat.log 10 n + 1) :=
      (mem_neighbours_natCast (e := 0) rfl).mpr (Or.inl (by simp))
    have hdouble : toDouble (value ⟨n, (0 : ℕ)⟩) = n := by
      rw [value_natural, pow_zero, mul_one, toDouble_natCast (by omega)]
    rw [List.find?_isSome]
    refine ⟨_, List.mem_flatMap.mpr ⟨Nat.log 10 n + 1, ?_, hmem⟩, decide_eq_true hdouble⟩
    exact List.mem_range'_1.mpr (by omega)
  obtain ⟨d, hd⟩ := Option.isSome_iff_exists.mp hself
  obtain ⟨k, hk, hmem⟩ := List.mem_flatMap.mp (List.mem_of_find?_eq_some hd)
  have hk := List.mem_range'_1.mp hk
  obtain ⟨s, e, rfl, hle⟩ := neighbour_natural hpos hk.1 (by omega) hmem
  refine ⟨s, e, ?_, ?_⟩
  · obtain ⟨more, hmore⟩ : ∃ more, 17 = Nat.log 10 n + 1 + more :=
      ⟨17 - (Nat.log 10 n + 1), by omega⟩
    rw [shortest, hmore, ← List.range'_append_1, List.flatMap_append, List.find?_append, hd]
    rfl
  · have hdouble := List.find?_some hd
    rw [decide_eq_true_eq, value_natural, toDouble_natCast (by omega)] at hdouble
    exact_mod_cast hdouble

end Decimal

theorem JsNumber.toString_ofNat {n : ℕ} (hn : n < 2 ^ 52) : (ofNat n).toString = Nat.repr n := by
  rcases Nat.eq_zero_or_pos n with rfl | hpos
  · rfl
  · obtain ⟨s, e, hshortest, hvalue⟩ := Decimal.shortest_natCast hpos hn
    have hs : 0 < s := by
      by_contra hzero
      rw [Nat.eq_zero_of_not_pos hzero, Nat.zero_mul] at hvalue
      omega
    have hcast : (0 : ℚ) < n := by exact_mod_cast hpos
    simp only [toString, ofNat, hcast.ne', hcast.not_gt, if_false, List.nil_append,
      abs_of_pos hcast, hshortest]
    rw [Decimal.toChars_natural hs (by omega), hvalue, Nat.repr_eq_ofList_toDigits]

end ThalerNodelib.Js
