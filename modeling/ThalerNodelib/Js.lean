import Mathlib.Data.Rat.Lemmas
import Mathlib.Data.Nat.Digits.Defs
import Mathlib.Data.Nat.Digits.Lemmas
import Mathlib.Algebra.Order.Ring.Unbundled.Rat
import ThalerNodelib.Fallible

/-!
JavaScript values as the library and the native module exchange them: byte
buffers, thrown errors, numbers, bignumber.js values and hex strings. A number
is NaN, an infinity or a rational; negative zero is not distinguished from zero.
-/
namespace ThalerNodelib.Js

abbrev Buffer := List UInt8

/-- What a call throws: an `Error`, a `TypeError` of the engine or of a failed
downcast, or the argument error of `ow` with the label of the argument and the
message of the failing validator (empty where it is one of the built-in ones). -/
inductive JsError
  | error (message : String)
  | typeError (message : String)
  | argumentError (label message : String)
  deriving DecidableEq, Repr

/-- A method of an object whose fields are `σ`. -/
abbrev Method (σ α : Type) := EStateM JsError σ α

variable {σ α : Type}

/-- Calls a function that does not touch the object. -/
def call (x : Except JsError α) : Method σ α :=
  match x with
  | .ok v => pure v
  | .error e => throw e

@[simp] theorem run_call (x : Except JsError α) (s : σ) :
    (call x : Method σ α).run s = match x with
      | .ok v => .ok v s
      | .error e => .error e s := by
  cases x <;> rfl

/-- `EStateM` has no such rule for its map, the shape that simp gives to a last `return`. -/
@[simp] theorem run_map {β : Type} (f : α → β) (m : Method σ α) (s : σ) :
    (f <$> m).run s = match m.run s with
      | .ok v t => .ok (f v) t
      | .error e t => .error e t := by
  simp only [Functor.map, EStateM.map, EStateM.run]
  cases m s <;> rfl

/-- A validator answers with the message of the check that fails, or with `none`. -/
def check (accepted : Bool) (message : String) : Option String :=
  if accepted then none else some message

@[simp] theorem check_eq_none (accepted : Bool) (message : String) :
    check accepted message = none ↔ accepted = true := by
  cases accepted <;> simp [check]

/-- `ow(value, label, validator)`: throws unless the validator accepts. -/
def ow (failure : Option String) (label : String) : Except JsError Unit :=
  match failure with
  | none => .ok ()
  | some message => .error (.argumentError label message)

@[simp] theorem ow_none (label : String) : ow none label = .ok () := rfl

@[simp] theorem ow_eq_ok (failure : Option String) (label : String) :
    ow failure label = .ok () ↔ failure = none := by
  cases failure <;> simp [ow]

/-- `ow` with a validator that asks the native module, which may throw instead. -/
def owNative (failure : Except JsError (Option String)) (label : String) :
    Except JsError Unit :=
  match failure with
  | .ok failure => ow failure label
  | .error e => .error e

@[simp] theorem owNative_eq_ok (failure : Except JsError (Option String)) (label : String) :
    owNative failure label = .ok () ↔ failure = .ok none := by
  cases failure <;> simp [owNative]

theorem floor_natCast (n : ℕ) : (n : ℚ).floor = n := by
  simpa using Rat.floor_intCast (n : ℤ)

/-- A rational that is a natural number is its numerator. -/
theorem natCast_num_toNat {q : ℚ} (hden : q.den = 1) (hnum : 0 ≤ q.num) :
    ((q.num.toNat : ℕ) : ℚ) = q := by
  have hcast : ((q.num.toNat : ℕ) : ℤ) = q.num := Int.toNat_of_nonneg hnum
  calc
    ((q.num.toNat : ℕ) : ℚ) = (q.num : ℚ) := by exact_mod_cast hcast
    _ = q := Rat.coe_int_num_of_den_eq_one hden

inductive JsNumber
  | nan
  | infinity (negative : Bool)
  | finite (value : ℚ)
  deriving DecidableEq, Repr

namespace JsNumber

/-- `x <= y`; every comparison with NaN is false. -/
def le : JsNumber → JsNumber → Bool
  | nan, _ => false
  | _, nan => false
  | infinity a, infinity b => a || !b
  | infinity a, finite _ => a
  | finite _, infinity b => !b
  | finite x, finite y => decide (x ≤ y)

/-- `x < y`. -/
def lt : JsNumber → JsNumber → Bool
  | nan, _ => false
  | _, nan => false
  | infinity a, infinity b => a && !b
  | infinity a, finite _ => a
  | finite _, infinity b => !b
  | finite x, finite y => decide (x < y)

def ofNat (n : ℕ) : JsNumber := finite n

/-- `Number.isInteger`. -/
def isInteger : JsNumber → Bool
  | finite q => q.den == 1
  | _ => false

/-- The element an array finds under the number: only a natural number names one. -/
def arrayIndex : JsNumber → Option ℕ
  | finite q => if q.den = 1 ∧ 0 ≤ q.num then some q.num.toNat else none
  | _ => none

/-- Rust's `as` cast to an unsigned integer of `w` bits: NaN gives 0, the
fraction is dropped, and what does not fit saturates. -/
def toUnsigned (w : ℕ) : JsNumber → ℕ
  | nan => 0
  | infinity negative => if negative then 0 else 2 ^ w - 1
  | finite q => min q.floor.toNat (2 ^ w - 1)

theorem toUnsigned_ofNat (w n : ℕ) : (ofNat n).toUnsigned w = min n (2 ^ w - 1) := by
  simp [ofNat, toUnsigned, floor_natCast]

theorem arrayIndex_ofNat (n : ℕ) : (ofNat n).arrayIndex = some n := by
  simp [ofNat, arrayIndex]

theorem arrayIndex_eq_some {x : JsNumber} {n : ℕ} (h : x.arrayIndex = some n) : x = ofNat n := by
  cases x with
  | nan => cases h
  | infinity negative => cases h
  | finite q =>
    simp only [arrayIndex] at h
    by_cases hq : q.den = 1 ∧ 0 ≤ q.num
    · rw [if_pos hq] at h
      rw [← Option.some.inj h, ofNat, natCast_num_toNat hq.1 hq.2]
    · rw [if_neg hq] at h
      cases h

theorem ofNat_inj {n m : ℕ} : ofNat n = ofNat m ↔ n = m := by
  refine ⟨fun h => ?_, congrArg ofNat⟩
  have hcast : (n : ℚ) = (m : ℚ) := JsNumber.finite.inj h
  exact_mod_cast hcast

/-- The integers from 0 on are the naturals. -/
theorem eq_ofNat_of_integer {x : JsNumber} (hint : x.isInteger = true)
    (hpos : (ofNat 0).le x = true) : ∃ n, x = ofNat n := by
  cases x with
  | nan => cases hint
  | infinity negative => cases hint
  | finite q =>
    have hden : q.den = 1 := by simpa [isInteger] using hint
    have hq : 0 ≤ q := by simpa [ofNat, le] using hpos
    refine ⟨q.num.toNat, arrayIndex_eq_some ?_⟩
    rw [arrayIndex, if_pos ⟨hden, Rat.num_nonneg.mpr hq⟩]

theorem isInteger_ofNat (n : ℕ) : (ofNat n).isInteger = true := by simp [isInteger, ofNat]

theorem ofNat_le_ofNat (n m : ℕ) : (ofNat n).le (ofNat m) = decide (n ≤ m) := by
  simp [le, ofNat]

theorem ofNat_lt_ofNat (n m : ℕ) : (ofNat n).lt (ofNat m) = decide (n < m) := by
  simp [lt, ofNat]

/-- `parse::<usize>()` of the printed number. From 10^21 on a number is printed
with an exponent. -/
def parseUsize (x : JsNumber) : Except String ℕ :=
  match x.arrayIndex with
  | none => .error "invalid digit found in string"
  | some n =>
    if 10 ^ 21 ≤ n then .error "invalid digit found in string"
    else if 2 ^ 64 ≤ n then .error "number too large to fit in target type"
    else .ok n

theorem parseUsize_arrayIndex {x : JsNumber} {n : ℕ} (h : x.parseUsize = .ok n) :
    x.arrayIndex = some n := by
  unfold parseUsize at h
  split at h
  · cases h
  · rename_i k hk
    split at h
    · cases h
    · split at h
      · cases h
      · rw [hk, Except.ok.inj h]

theorem parseUsize_ofNat {n : ℕ} (h : n < 2 ^ 64) : (ofNat n).parseUsize = .ok n := by
  rw [parseUsize, arrayIndex_ofNat]
  have hexponent : ¬ 10 ^ 21 ≤ n := by omega
  have hfits : ¬ 2 ^ 64 ≤ n := by omega
  simp only [hexponent, hfits, if_false]

end JsNumber

/-- `ow.number.uint16` and `ow.number.uint32`: the integers from 0 to the greatest. -/
def owUint (greatest : ℕ) (value : JsNumber) : Option String :=
  check (value.isInteger && ((JsNumber.ofNat 0).le value && value.le (.ofNat greatest))) ""

def owUint16 : JsNumber → Option String := owUint 65535

def owUint32 : JsNumber → Option String := owUint 4294967295

theorem owUint_eq_none {greatest : ℕ} {value : JsNumber} :
    owUint greatest value = none ↔ ∃ n, n ≤ greatest ∧ value = .ofNat n := by
  rw [owUint, check_eq_none, Bool.and_eq_true, Bool.and_eq_true]
  constructor
  · intro h
    obtain ⟨hint, hpos, hle⟩ := h
    obtain ⟨n, rfl⟩ := JsNumber.eq_ofNat_of_integer hint hpos
    rw [JsNumber.ofNat_le_ofNat, decide_eq_true_eq] at hle
    exact ⟨n, hle, rfl⟩
  · intro h
    obtain ⟨n, hn, rfl⟩ := h
    rw [JsNumber.ofNat_le_ofNat, JsNumber.ofNat_le_ofNat, decide_eq_true_eq, decide_eq_true_eq]
    exact ⟨JsNumber.isInteger_ofNat n, n.zero_le, hn⟩

/-- A bignumber.js value. Its finite values are decimals. -/
inductive BigNumber
  | nan
  | infinity (negative : Bool)
  | finite (value : ℚ)
  deriving DecidableEq, Repr

namespace BigNumber

def ofNat (n : ℕ) : BigNumber := finite n

def isInteger : BigNumber → Bool
  | finite q => q.den == 1
  | _ => false

theorem isInteger_ofNat (n : ℕ) : (ofNat n).isInteger = true := by simp [isInteger, ofNat]

theorem ofNat_inj {n m : ℕ} : ofNat n = ofNat m ↔ n = m := by
  refine ⟨fun h => ?_, congrArg ofNat⟩
  have hcast : (n : ℚ) = (m : ℚ) := BigNumber.finite.inj h
  exact_mod_cast hcast

def isGreaterThanOrEqualTo : BigNumber → ℚ → Bool
  | nan, _ => false
  | infinity negative, _ => !negative
  | finite x, y => decide (y ≤ x)

def isLessThanOrEqualTo : BigNumber → ℚ → Bool
  | nan, _ => false
  | infinity negative, _ => negative
  | finite x, y => decide (x ≤ y)

def plus : BigNumber → BigNumber → BigNumber
  | nan, _ => nan
  | _, nan => nan
  | infinity a, infinity b => if a = b then infinity a else nan
  | infinity a, finite _ => infinity a
  | finite _, infinity b => infinity b
  | finite x, finite y => finite (x + y)

/-- The default `DECIMAL_PLACES`. -/
def decimalPlaces : ℕ := 20

/-- The digits after the point, without the zeros they end in. -/
def fractionDigits (fraction : ℕ) : List Char :=
  let shown := (Nat.repr fraction).toList
  let padded := List.replicate (decimalPlaces - shown.length) '0' ++ shown
  (padded.reverse.dropWhile (· == '0')).reverse

/-- `toString(10)`: rounded half up to the decimal places, never with an exponent. -/
def toString10 : BigNumber → String
  | nan => "NaN"
  | infinity negative => if negative then "-Infinity" else "Infinity"
  | finite q =>
    let units := (|q| * 10 ^ decimalPlaces + 1 / 2).floor.toNat
    let fraction := fractionDigits (units % 10 ^ decimalPlaces)
    (if q < 0 ∧ units ≠ 0 then "-" else "") ++ Nat.repr (units / 10 ^ decimalPlaces) ++
      if fraction = [] then "" else "." ++ String.ofList fraction

/-- Adding a half before the floor does not move an integer. -/
theorem floor_natCast_add_half (n : ℕ) : ((n : ℚ) + 1 / 2).floor = n := by
  have hhalf : ((1 : ℚ) / 2).floor = 0 := by decide +kernel
  have h := Rat.floor_add_intCast (x := (1 / 2 : ℚ)) (y := (n : ℤ))
  rw [hhalf, zero_add, Int.cast_natCast, add_comm] at h
  exact h

/-- An integer is a whole number of units in the last decimal place. -/
theorem units_natCast (n : ℕ) :
    (|(n : ℚ)| * 10 ^ decimalPlaces + 1 / 2).floor.toNat = n * 10 ^ decimalPlaces := by
  have hcast : |(n : ℚ)| * 10 ^ decimalPlaces = ((n * 10 ^ decimalPlaces : ℕ) : ℚ) := by
    rw [abs_of_nonneg (Nat.cast_nonneg n)]
    push_cast
    rfl
  rw [hcast, floor_natCast_add_half, Int.toNat_natCast]

theorem fractionDigits_zero : fractionDigits 0 = [] := by decide

theorem toString10_ofNat (n : ℕ) : (ofNat n).toString10 = Nat.repr n := by
  have hneg : ¬ ((n : ℚ) < 0) := not_lt.mpr (Nat.cast_nonneg n)
  have hwhole : n * 10 ^ decimalPlaces / 10 ^ decimalPlaces = n :=
    Nat.mul_div_cancel n (Nat.pow_pos (by decide))
  simp only [ofNat, toString10, units_natCast, hneg, hwhole, Nat.mul_mod_left, fractionDigits_zero,
    false_and, if_false, if_true, String.empty_append, String.append_empty]

/-- A negative integer is printed with its sign. -/
theorem toString10_negative {q : ℚ} (hint : (finite q).isInteger = true) (hneg : q < 0) :
    ∃ digits, (finite q).toString10 = "-" ++ digits := by
  have hden : q.den = 1 := by simpa [isInteger] using hint
  have hnum : q.num < 0 := Rat.num_neg.mpr hneg
  have habs : |q| = |((q.num.natAbs : ℕ) : ℚ)| := by
    calc
      |q| = |(q.num : ℚ)| := by rw [Rat.coe_int_num_of_den_eq_one hden]
      _ = |((q.num.natAbs : ℕ) : ℚ)| := by
        rw [← Int.cast_abs, ← Nat.cast_natAbs, Nat.abs_cast]
  have hunits : q.num.natAbs * 10 ^ decimalPlaces ≠ 0 :=
    Nat.mul_ne_zero (by omega) (by decide)
  simp only [toString10, habs, units_natCast, hneg, hunits, true_and, ne_eq, not_false_iff, if_true,
    String.append_assoc]
  exact ⟨_, rfl⟩

/-- The values that `isInteger` and the lower bound 0 accept are the naturals. -/
theorem eq_ofNat_of_integer {x : BigNumber} (hint : x.isInteger = true)
    (hpos : x.isGreaterThanOrEqualTo 0 = true) : ∃ n, x = ofNat n := by
  cases x with
  | nan => cases hint
  | infinity negative => cases hint
  | finite q =>
    have hden : q.den = 1 := by simpa [isInteger] using hint
    have hq : 0 ≤ q := by simpa [isGreaterThanOrEqualTo] using hpos
    exact ⟨q.num.toNat, by rw [ofNat, natCast_num_toNat hden (Rat.num_nonneg.mpr hq)]⟩

end BigNumber

/-! Hex strings. -/

def hexValue (c : Char) : Option ℕ :=
  if '0' ≤ c ∧ c ≤ '9' then some (c.toNat - '0'.toNat)
  else if 'a' ≤ c ∧ c ≤ 'f' then some (c.toNat - 'a'.toNat + 10)
  else if 'A' ≤ c ∧ c ≤ 'F' then some (c.toNat - 'A'.toNat + 10)
  else none

def isHexDigit (c : Char) : Bool := (hexValue c).isSome

def hexDigit (upper : Bool) (n : ℕ) : Char :=
  if n < 10 then Char.ofNat ('0'.toNat + n)
  else Char.ofNat ((if upper then 'A'.toNat else 'a'.toNat) + (n - 10))

def hexChars (upper : Bool) (bytes : Buffer) : List Char :=
  bytes.flatMap fun b => [hexDigit upper (b.toNat / 16), hexDigit upper (b.toNat % 16)]

/-- `hex::encode`, and `toString('hex')`. -/
def hexEncode (bytes : Buffer) : String := String.ofList (hexChars false bytes)

/-- `hex::encode_upper`. -/
def hexEncodeUpper (bytes : Buffer) : String := String.ofList (hexChars true bytes)

/-- The bytes of the leading pairs of hex digits. -/
def leadingHexBytes : List Char → Buffer
  | c :: d :: rest =>
    match hexValue c, hexValue d with
    | some x, some y => UInt8.ofNat (16 * x + y) :: leadingHexBytes rest
    | _, _ => []
  | _ => []

/-- `Buffer.from(text, 'hex')` stops at the first pair that is not hex. -/
def bufferFromHex (text : String) : Buffer := leadingHexBytes text.toList

/-- The UTF-8 bytes of a text, each as a character: `b as char`. -/
def byteChars (text : String) : List Char :=
  text.toByteArray.data.toList.map fun b => Char.ofNat b.toNat

/-- `hex::decode` of the bytes from `position` on. -/
def hexDecodeFrom (position : ℕ) : List Char → Except String Buffer
  | [] => .ok []
  | [_] => .error "Odd number of digits"
  | c :: d :: rest =>
    match hexValue c, hexValue d with
    | some x, some y => do
      let bytes ← hexDecodeFrom (position + 2) rest
      return UInt8.ofNat (16 * x + y) :: bytes
    | none, _ => .error s!"Invalid character {repr c} at position {position}"
    | _, none => .error s!"Invalid character {repr d} at position {position + 1}"

def hexDecode (text : String) : Except String Buffer :=
  if (byteChars text).length % 2 = 1 then .error "Odd number of digits"
  else hexDecodeFrom 0 (byteChars text)

theorem hexValue_hexDigit (upper : Bool) {n : ℕ} (h : n < 16) :
    hexValue (hexDigit upper n) = some n := by
  interval_cases n <;> cases upper <;> decide

theorem leadingHexBytes_hexChars (upper : Bool) (bytes : Buffer) :
    leadingHexBytes (hexChars upper bytes) = bytes := by
  induction bytes with
  | nil => rfl
  | cons b rest ih =>
    have hb : b.toNat < 256 := b.toNat_lt
    have hhigh := hexValue_hexDigit upper (show b.toNat / 16 < 16 by omega)
    have hlow := hexValue_hexDigit upper (show b.toNat % 16 < 16 by omega)
    have hbyte : 16 * (b.toNat / 16) + b.toNat % 16 = b.toNat := by omega
    simp only [hexChars, List.flatMap_cons, List.cons_append, List.nil_append,
      leadingHexBytes, hhigh, hlow, hbyte, UInt8.ofNat_toNat]
    exact congrArg (b :: ·) ih

theorem hexDecodeFrom_ok {digits : List Char} (heven : digits.length % 2 = 0)
    (hhex : ∀ c ∈ digits, isHexDigit c = true) (position : ℕ) :
    ∃ bytes, hexDecodeFrom position digits = .ok bytes ∧ 2 * bytes.length = digits.length := by
  induction digits using leadingHexBytes.induct generalizing position with
  | case1 c d rest x y hx hy ih =>
    have hrest : rest.length % 2 = 0 := by
      simp only [List.length_cons] at heven
      omega
    obtain ⟨bytes, hbytes, hlen⟩ := ih hrest
      (fun e he => hhex e (List.mem_cons_of_mem _ (List.mem_cons_of_mem _ he))) (position + 2)
    refine ⟨UInt8.ofNat (16 * x + y) :: bytes, ?_, ?_⟩
    · simp only [hexDecodeFrom, hx, hy, hbytes]
      rfl
    · simp only [List.length_cons]
      omega
  | case2 c d rest hnone =>
    have hc := Option.isSome_iff_exists.mp (hhex c (List.mem_cons_self ..))
    have hd := Option.isSome_iff_exists.mp
      (hhex d (List.mem_cons_of_mem _ (List.mem_cons_self ..)))
    obtain ⟨x, hx⟩ := hc
    obtain ⟨y, hy⟩ := hd
    exact absurd hy (hnone x y hx)
  | case3 digits hshort =>
    match digits, heven, hshort with
    | [], _, _ => exact ⟨[], rfl, rfl⟩
    | [c], heven, _ => simp at heven
    | c :: d :: rest, _, hshort => exact absurd rfl (hshort c d rest)

/-- The two decoders of hex agree where the strict one does not throw. -/
theorem leadingHexBytes_of_hexDecodeFrom {digits : List Char} {position : ℕ} {bytes : Buffer}
    (h : hexDecodeFrom position digits = .ok bytes) : leadingHexBytes digits = bytes := by
  induction digits using leadingHexBytes.induct generalizing position bytes with
  | case1 c d rest x y hx hy ih =>
    simp only [hexDecodeFrom, hx, hy] at h
    obtain ⟨decoded, hdecoded, h⟩ := bind_eq_ok.mp h
    simp only [leadingHexBytes, hx, hy, ih hdecoded]
    exact Except.ok.inj h
  | case2 c d rest hnone =>
    unfold hexDecodeFrom at h
    split at h
    · rename_i x y hx hy
      exact absurd hy (hnone x y hx)
    · cases h
    · cases h
  | case3 digits hshort =>
    match digits, hshort with
    | [], _ => exact Except.ok.inj h
    | [c], _ => cases h
    | c :: d :: rest, hshort => exact absurd rfl (hshort c d rest)

theorem forall_isHexDigit_of_hexDecodeFrom {digits : List Char} {position : ℕ} {bytes : Buffer}
    (h : hexDecodeFrom position digits = .ok bytes) : ∀ c ∈ digits, isHexDigit c = true := by
  induction digits using leadingHexBytes.induct generalizing position bytes with
  | case1 c d rest x y hd hc ih =>
    simp only [hexDecodeFrom, hd, hc] at h
    obtain ⟨decoded, hdecoded, -⟩ := bind_eq_ok.mp h
    rw [List.forall_mem_cons, List.forall_mem_cons]
    exact ⟨Option.isSome_of_mem hc, Option.isSome_of_mem hd, ih hdecoded⟩
  | case2 c d rest hnone =>
    unfold hexDecodeFrom at h
    split at h
    · rename_i x y hx hy
      exact absurd hy (hnone x y hx)
    · cases h
    · cases h
  | case3 digits hshort =>
    match digits, hshort with
    | [], _ => exact fun _ hc => absurd hc List.not_mem_nil
    | [c], _ => cases h
    | c :: d :: rest, hshort => exact absurd rfl (hshort c d rest)

/-! Hex digits are ASCII, and the bytes of an ASCII text are its characters. -/

theorem ascii_of_isHexDigit {c : Char} (h : isHexDigit c = true) : c.toNat < 128 := by
  unfold isHexDigit hexValue at h
  split at h
  · rename_i hrange
    exact lt_of_le_of_lt (b := '9'.toNat) hrange.2 (by decide)
  split at h
  · rename_i hrange
    exact lt_of_le_of_lt (b := 'f'.toNat) hrange.2 (by decide)
  split at h
  · rename_i hrange
    exact lt_of_le_of_lt (b := 'F'.toNat) hrange.2 (by decide)
  · cases h

theorem byteChars_ofList (chars : List Char) : byteChars (String.ofList chars) =
    chars.flatMap fun c => (String.utf8EncodeChar c).map fun b => Char.ofNat b.toNat := by
  have hbytes : (String.ofList chars).toByteArray.data.toList =
      chars.flatMap String.utf8EncodeChar := by
    simp [List.utf8Encode]
  rw [byteChars, hbytes, List.map_flatMap]

theorem encoded_of_ascii {c : Char} (h : c.toNat < 128) :
    (String.utf8EncodeChar c).map (fun b => Char.ofNat b.toNat) = [c] := by
  have hone : String.utf8EncodeChar c = [UInt8.ofNat c.toNat] :=
    if_pos (show c.toNat ≤ 127 by omega)
  have hsame : (UInt8.ofNat c.toNat).toNat = c.toNat :=
    UInt8.toNat_ofNat_of_lt' (show c.toNat < 256 by omega)
  rw [hone, List.map_singleton, hsame, Char.ofNat_toNat]

theorem byteChars_of_ascii {chars : List Char} (h : ∀ c ∈ chars, c.toNat < 128) :
    byteChars (String.ofList chars) = chars := by
  rw [byteChars_ofList]
  calc
    _ = chars.flatMap fun c => [c] := List.flatMap_congr fun c hc => encoded_of_ascii (h c hc)
    _ = chars := by simp

/-- A character outside ASCII has a byte outside ASCII. -/
theorem ascii_of_encoded {c : Char}
    (h : ∀ d ∈ (String.utf8EncodeChar c).map (fun b => Char.ofNat b.toNat), d.toNat < 128) :
    c.toNat < 128 := by
  by_contra hlarge
  have hbyte : ∀ n, 128 ≤ n → n < 256 → UInt8.ofNat n ∉ String.utf8EncodeChar c := by
    intro n hn hn' hmem
    have hlt := h _ (List.mem_map_of_mem hmem)
    have hsame : (UInt8.ofNat n).toNat = n := UInt8.toNat_ofNat_of_lt' hn'
    have hvalid : n.isValidChar := Or.inl (by omega)
    have hchar : (Char.ofNat n).toNat = n := by
      rw [Char.ofNat, dif_pos hvalid]
      rfl
    rw [hsame, hchar] at hlt
    omega
  have hv : ¬ c.val.toNat ≤ 0x7f := by
    change ¬ c.toNat ≤ 127
    omega
  unfold String.utf8EncodeChar at hbyte
  simp only [hv, if_false] at hbyte
  split at hbyte
  · exact hbyte _ (by omega) (by omega) (List.mem_cons_self ..)
  split at hbyte
  · exact hbyte _ (by omega) (by omega) (List.mem_cons_self ..)
  · exact hbyte _ (by omega) (by omega) (List.mem_cons_self ..)

/-- A text whose bytes are all hex digits is of these digits. -/
theorem byteChars_of_hex {text : String} (h : ∀ c ∈ byteChars text, isHexDigit c = true) :
    byteChars text = text.toList := by
  rw [← String.ofList_toList (s := text)] at h ⊢
  rw [String.toList_ofList]
  apply byteChars_of_ascii
  intro c hc
  apply ascii_of_encoded
  intro d hd
  rw [byteChars_ofList] at h
  exact ascii_of_isHexDigit (h d (List.mem_flatMap.mpr ⟨c, hc, hd⟩))

theorem bufferFromHex_of_hexDecode {text : String} {bytes : Buffer}
    (h : hexDecode text = .ok bytes) : bufferFromHex text = bytes := by
  unfold hexDecode at h
  split at h
  · cases h
  · rw [bufferFromHex, ← byteChars_of_hex (forall_isHexDigit_of_hexDecodeFrom h)]
    exact leadingHexBytes_of_hexDecodeFrom h

/-- An even number of hex digits decodes to half as many bytes. -/
theorem hexDecode_ok {text : String} (heven : text.toList.length % 2 = 0)
    (hhex : ∀ c ∈ text.toList, isHexDigit c = true) :
    ∃ bytes, hexDecode text = .ok bytes ∧ 2 * bytes.length = text.toList.length := by
  obtain ⟨bytes, hbytes, hlen⟩ := hexDecodeFrom_ok heven hhex 0
  have hchars : byteChars text = text.toList := by
    have hascii := byteChars_of_ascii fun c hc => ascii_of_isHexDigit (hhex c hc)
    rwa [String.ofList_toList] at hascii
  exact ⟨bytes, by rw [hexDecode, hchars, if_neg (by omega), hbytes], hlen⟩

theorem hexChars_length (upper : Bool) (bytes : Buffer) :
    (hexChars upper bytes).length = 2 * bytes.length := by
  simp [hexChars, List.length_flatMap, Nat.mul_comm]

theorem isHexDigit_of_mem_hexChars {upper : Bool} {bytes : Buffer} {c : Char}
    (h : c ∈ hexChars upper bytes) : isHexDigit c = true := by
  obtain ⟨b, -, hpair⟩ := List.mem_flatMap.mp h
  have hb : b.toNat < 256 := b.toNat_lt
  rcases List.mem_pair.mp hpair with rfl | rfl
  · rw [isHexDigit, hexValue_hexDigit upper (by omega)]
    rfl
  · rw [isHexDigit, hexValue_hexDigit upper (by omega)]
    rfl

/-- Printed hex is decoded to its bytes. -/
theorem hexDecodeFrom_hexChars (upper : Bool) (bytes : Buffer) (position : ℕ) :
    hexDecodeFrom position (hexChars upper bytes) = .ok bytes := by
  have heven : (hexChars upper bytes).length % 2 = 0 := by
    rw [hexChars_length]
    omega
  obtain ⟨decoded, hdecoded, -⟩ :=
    hexDecodeFrom_ok heven (fun c hc => isHexDigit_of_mem_hexChars hc) position
  have hbytes := leadingHexBytes_of_hexDecodeFrom hdecoded
  rw [leadingHexBytes_hexChars] at hbytes
  rw [hdecoded, hbytes]

/-- `hex::decode` reads back what `hex::encode_upper` prints. -/
theorem hexDecode_hexEncodeUpper (bytes : Buffer) :
    hexDecode (hexEncodeUpper bytes) = .ok bytes := by
  have hchars : byteChars (hexEncodeUpper bytes) = hexChars true bytes :=
    byteChars_of_ascii fun c hc => ascii_of_isHexDigit (isHexDigit_of_mem_hexChars hc)
  have heven : ¬ (hexChars true bytes).length % 2 = 1 := by
    rw [hexChars_length]
    omega
  rw [hexDecode, hchars, if_neg heven, hexDecodeFrom_hexChars]

theorem toUpper_hexDigit {n : ℕ} (h : n < 16) : (hexDigit false n).toUpper = hexDigit true n := by
  interval_cases n <;> decide

theorem toUpper_hexChars (bytes : Buffer) :
    (hexChars false bytes).map Char.toUpper = hexChars true bytes := by
  unfold hexChars
  rw [List.map_flatMap]
  apply List.flatMap_congr
  intro b _
  have hb : b.toNat < 256 := b.toNat_lt
  rw [List.map_cons, List.map_singleton, toUpper_hexDigit (by omega), toUpper_hexDigit (by omega)]

theorem hexEncodeUpper_inj {bytes bytes' : Buffer} :
    hexEncodeUpper bytes = hexEncodeUpper bytes' ↔ bytes = bytes' := by
  refine ⟨fun h => ?_, congrArg hexEncodeUpper⟩
  have hdecoded := hexDecode_hexEncodeUpper bytes
  rw [h, hexDecode_hexEncodeUpper] at hdecoded
  exact (Except.ok.inj hdecoded).symm

end ThalerNodelib.Js
