import Mathlib.Logic.Basic
import Mathlib.Tactic.Common
import Mathlib.Algebra.Order.Monoid.Unbundled.Pow
import Mathlib.Algebra.Order.Ring.Nat
import ThalerNodelib.Fallible

/-!
Binary formats whose decoder reads a prefix of its input and hands back the
rest. A format is lawful when it reads back what it wrote, whatever follows, and
canonical when it reads nothing else; the formats below are both when their
parts are.
-/
namespace ThalerNodelib

structure Codec (ε α : Type) where
  encode : α → List UInt8
  decode : List UInt8 → Except ε (α × List UInt8)

namespace Codec

variable {ε α β : Type}

def Lawful (c : Codec ε α) : Prop :=
  ∀ a rest, c.decode (c.encode a ++ rest) = .ok (a, rest)

/-- What is decoded is the encoding of the value. -/
def Canonical (c : Codec ε α) : Prop :=
  ∀ input a rest, c.decode input = .ok (a, rest) → input = c.encode a ++ rest

/-- Encoding and decoding undo each other. -/
structure Inverse (c : Codec ε α) : Prop where
  lawful : c.Lawful
  canonical : c.Canonical

/-- Decodes the start of the input and drops the rest. -/
def read (c : Codec ε α) (input : List UInt8) : Except ε α := (c.decode input).map Prod.fst

theorem Lawful.read_encode_append {c : Codec ε α} (hc : c.Lawful) (a : α) (rest : List UInt8) :
    c.read (c.encode a ++ rest) = .ok a := by
  rw [read, hc a rest]
  rfl

theorem Lawful.read_encode {c : Codec ε α} (hc : c.Lawful) (a : α) :
    c.read (c.encode a) = .ok a := by
  have h := hc.read_encode_append a []
  rwa [List.append_nil] at h

theorem Lawful.encode_injective {c : Codec ε α} (hc : c.Lawful) : Function.Injective c.encode := by
  intro a b h
  have hread := hc.read_encode a
  rw [h, hc.read_encode b] at hread
  exact (Except.ok.inj hread).symm

/-- The bytes are the encoding of what they decode to, and no more. -/
def Exact (c : Codec ε α) (bytes : List UInt8) : Prop :=
  ∃ a, c.read bytes = .ok a ∧ bytes = c.encode a

/-- What the decoder leaves of the input. -/
def remainder (c : Codec ε α) (input : List UInt8) : Except ε (List UInt8) :=
  (c.decode input).map Prod.snd

theorem Lawful.remainder_of_exact {c : Codec ε α} (hc : c.Lawful) {bytes : List UInt8}
    (h : c.Exact bytes) : c.remainder bytes = .ok [] := by
  obtain ⟨a, -, rfl⟩ := h
  have hdecode := hc a []
  rw [List.append_nil] at hdecode
  rw [remainder, hdecode]
  rfl

/-- Bytes are exact when the decoder leaves nothing of them. -/
theorem Inverse.exact_iff_remainder {c : Codec ε α} (hc : c.Inverse) {bytes : List UInt8} :
    c.Exact bytes ↔ c.remainder bytes = .ok [] := by
  constructor
  · exact hc.lawful.remainder_of_exact
  · intro hremainder
    obtain ⟨p, hp, hrest⟩ := map_eq_ok.mp hremainder
    have hbytes := hc.canonical bytes p.1 p.2 hp
    rw [hrest, List.append_nil] at hbytes
    refine ⟨p.1, ?_, hbytes⟩
    rw [read, hp]
    rfl

/-- What follows the bytes does not change what is read of them. -/
theorem Inverse.read_append {c : Codec ε α} (hc : c.Inverse) {bytes : List UInt8} {a : α}
    (h : c.read bytes = .ok a) (extra : List UInt8) :
    c.read (bytes ++ extra) = c.read bytes := by
  obtain ⟨p, hp, rfl⟩ := map_eq_ok.mp h
  have hbytes : bytes = c.encode p.1 ++ p.2 := hc.canonical bytes p.1 p.2 hp
  calc
    c.read (bytes ++ extra) = c.read (c.encode p.1 ++ (p.2 ++ extra)) := by
      rw [hbytes, List.append_assoc]
    _ = .ok p.1 := hc.lawful.read_encode_append p.1 (p.2 ++ extra)
    _ = c.read bytes := h.symm

/-- Bytes that are accepted are exact precisely when the decoder leaves nothing
of them, and whatever follows them is accepted with them, as the same value. -/
structure Extensible (c : Codec ε α) (accepts : List UInt8 → Prop) (bytes : List UInt8) :
    Prop where
  exact_iff : c.Exact bytes ↔ c.remainder bytes = .ok []
  accepted : accepts bytes → ∀ extra, accepts (bytes ++ extra)
  same : accepts bytes → ∀ extra, ∃ a, c.read bytes = .ok a ∧ c.read (bytes ++ extra) = .ok a

/-- What is accepted for the value that is read of it can be extended at will. -/
theorem Inverse.extensible {c : Codec ε α} (hc : c.Inverse) {accepts : List UInt8 → Prop}
    (hreads : ∀ bytes, accepts bytes → ∃ a, c.read bytes = .ok a)
    (hsame : ∀ bytes bytes', c.read bytes' = c.read bytes → accepts bytes → accepts bytes')
    (bytes : List UInt8) : c.Extensible accepts bytes := by
  refine ⟨hc.exact_iff_remainder, fun haccepts extra => ?_, fun haccepts extra => ?_⟩
  · obtain ⟨a, ha⟩ := hreads bytes haccepts
    exact hsame bytes (bytes ++ extra) (hc.read_append ha extra) haccepts
  · obtain ⟨a, ha⟩ := hreads bytes haccepts
    exact ⟨a, ha, (hc.read_append ha extra).trans ha⟩

/-- A format for what a bijection reaches. -/
def map (c : Codec ε α) (f : α → β) (g : β → α) : Codec ε β where
  encode b := c.encode (g b)
  decode input := (c.decode input).map fun (a, rest) => (f a, rest)

theorem Lawful.map {c : Codec ε α} (hc : c.Lawful) {f : α → β} {g : β → α}
    (hfg : ∀ b, f (g b) = b) : (c.map f g).Lawful := by
  intro b rest
  change (c.decode (c.encode (g b) ++ rest)).map _ = _
  rw [hc (g b) rest]
  simp [Except.map, hfg]

/-- One value after the other. -/
def pair (c : Codec ε α) (d : Codec ε β) : Codec ε (α × β) where
  encode p := c.encode p.1 ++ d.encode p.2
  decode input := do
    let (a, rest) ← c.decode input
    let (b, rest) ← d.decode rest
    return ((a, b), rest)

theorem Lawful.pair {c : Codec ε α} {d : Codec ε β} (hc : c.Lawful) (hd : d.Lawful) :
    (c.pair d).Lawful := by
  intro p rest
  obtain ⟨a, b⟩ := p
  simp only [Codec.pair, List.append_assoc, hc a, hd b, bind, Except.bind, pure, Except.pure]

def byte (failure : ε) : Codec ε UInt8 where
  encode b := [b]
  decode
    | [] => .error failure
    | b :: rest => .ok (b, rest)

theorem byte_lawful (failure : ε) : (byte failure).Lawful := fun _ _ => rfl

def wordBytes : ℕ → ℕ → List UInt8
  | 0, _ => []
  | k + 1, n => UInt8.ofNat (n % 256) :: wordBytes k (n / 256)

def readWord (failure : ε) : ℕ → List UInt8 → Except ε (ℕ × List UInt8)
  | 0, input => .ok (0, input)
  | _ + 1, [] => .error failure
  | k + 1, b :: rest => do
    let (n, rest) ← readWord failure k rest
    return (b.toNat + 256 * n, rest)

theorem readWord_wordBytes (failure : ε) (k n : ℕ) (hn : n < 256 ^ k) (rest : List UInt8) :
    readWord failure k (wordBytes k n ++ rest) = .ok (n, rest) := by
  induction k generalizing n with
  | zero =>
    have hzero : n = 0 := by
      rw [pow_zero] at hn
      omega
    subst hzero
    rfl
  | succ k ih =>
    have hdiv : n / 256 < 256 ^ k := by
      rw [pow_succ] at hn
      omega
    have hlow : (UInt8.ofNat (n % 256)).toNat = n % 256 := by
      rw [UInt8.toNat_ofNat']
      omega
    simp only [wordBytes, List.cons_append, readWord, ih _ hdiv, hlow, bind, Except.bind, pure,
      Except.pure]
    congr 2
    omega

/-- A number in `k` bytes, the lowest first. -/
def word (failure : ε) (k : ℕ) : Codec ε (Fin (256 ^ k)) where
  encode n := wordBytes k n
  decode input := (readWord failure k input).map fun (n, rest) => (Fin.ofNat (256 ^ k) n, rest)

theorem word_lawful (failure : ε) (k : ℕ) : (word failure k).Lawful := by
  intro n rest
  change (readWord failure k (wordBytes k n ++ rest)).map _ = _
  rw [readWord_wordBytes failure k n n.isLt]
  simp [Except.map]

def uint16 (failure : ε) : Codec ε UInt16 :=
  (word failure 2).map (fun n => UInt16.ofNat n) fun n => Fin.ofNat _ n.toNat

def uint64 (failure : ε) : Codec ε UInt64 :=
  (word failure 8).map (fun n => UInt64.ofNat n) fun n => Fin.ofNat _ n.toNat

theorem uint16_lawful (failure : ε) : (uint16 failure).Lawful := by
  refine (word_lawful failure 2).map fun n => ?_
  have hn : n.toNat < 256 ^ 2 := n.toNat_lt
  simp only [Fin.val_ofNat, Nat.mod_eq_of_lt hn, UInt16.ofNat_toNat]

theorem uint64_lawful (failure : ε) : (uint64 failure).Lawful := by
  refine (word_lawful failure 8).map fun n => ?_
  have hn : n.toNat < 256 ^ 8 := n.toNat_lt
  simp only [Fin.val_ofNat, Nat.mod_eq_of_lt hn, UInt64.ofNat_toNat]

/-- Bytes of a known number. -/
def bytes (failure : ε) (n : ℕ) : Codec ε { b : List UInt8 // b.length = n } where
  encode b := b.val
  decode input :=
    if h : n ≤ input.length then .ok (⟨input.take n, by simp [h]⟩, input.drop n)
    else .error failure

theorem bytes_lawful (failure : ε) (n : ℕ) : (bytes failure n).Lawful := by
  intro fixed rest
  obtain ⟨b, hb⟩ := fixed
  have hlen : n ≤ (b ++ rest).length := by
    rw [List.length_append]
    omega
  simp only [bytes, dif_pos hlen, List.take_left' hb, List.drop_left' hb]

/-- A format under the number of a variant. -/
def variant (c : Codec ε α) (failure : ε) (tag : UInt8) : Codec ε α where
  encode a := tag :: c.encode a
  decode
    | [] => .error failure
    | b :: rest => if b = tag then c.decode rest else .error failure

theorem Lawful.variant {c : Codec ε α} (hc : c.Lawful) (failure : ε) (tag : UInt8) :
    (c.variant failure tag).Lawful := by
  intro a rest
  simp only [Codec.variant, List.cons_append, if_true, hc a rest]

def option (c : Codec ε α) (failure : ε) : Codec ε (Option α) where
  encode
    | none => [0]
    | some a => 1 :: c.encode a
  decode
    | 0 :: rest => .ok (none, rest)
    | 1 :: rest => (c.decode rest).map fun (a, rest) => (some a, rest)
    | _ => .error failure

theorem Lawful.option {c : Codec ε α} (hc : c.Lawful) (failure : ε) :
    (c.option failure).Lawful := by
  intro a rest
  cases a with
  | none => rfl
  | some a =>
    change (c.decode (c.encode a ++ rest)).map _ = _
    rw [hc a rest]
    rfl

/-- A count below 2^30 in one, two or four bytes, the form in the two lowest places. -/
def compactBytes (n : ℕ) : List UInt8 :=
  if n < 2 ^ 6 then wordBytes 1 (4 * n)
  else if n < 2 ^ 14 then wordBytes 2 (4 * n + 1)
  else wordBytes 4 (4 * n + 2)

/-- A number of `k` bytes whose quotient by 4 is at least `least`. -/
def readCompactWord (failure : ε) (k least : ℕ) (input : List UInt8) :
    Except ε (ℕ × List UInt8) := do
  let (n, rest) ← readWord failure k input
  if least ≤ n / 4 then return (n / 4, rest) else throw failure

/-- A larger count is given in steps of 2^30. -/
def countBytes (n : ℕ) : List UInt8 :=
  List.replicate (n / 2 ^ 30) 3 ++ compactBytes (n % 2 ^ 30)

def readCount (failure : ε) : List UInt8 → Except ε (ℕ × List UInt8)
  | [] => .error failure
  | b :: rest =>
    if b = 3 then (readCount failure rest).map fun (n, rest) => (2 ^ 30 + n, rest)
    else match b.toNat % 4 with
      | 0 => readCompactWord failure 1 0 (b :: rest)
      | 1 => readCompactWord failure 2 (2 ^ 6) (b :: rest)
      | 2 => readCompactWord failure 4 (2 ^ 14) (b :: rest)
      | _ => .error failure

theorem readCompactWord_wordBytes (failure : ε) (k least n : ℕ) (hn : n < 256 ^ k)
    (hleast : least ≤ n / 4) (rest : List UInt8) :
    readCompactWord failure k least (wordBytes k n ++ rest) = .ok (n / 4, rest) := by
  simp only [readCompactWord, readWord_wordBytes failure k n hn, bind, Except.bind, if_pos hleast]
  rfl

/-- The form of a compact count shows in its first byte. -/
theorem readCount_wordBytes (failure : ε) (k n : ℕ) (rest : List UInt8) (hform : n % 4 ≠ 3) :
    readCount failure (wordBytes (k + 1) n ++ rest) = match n % 4 with
      | 0 => readCompactWord failure 1 0 (wordBytes (k + 1) n ++ rest)
      | 1 => readCompactWord failure 2 (2 ^ 6) (wordBytes (k + 1) n ++ rest)
      | 2 => readCompactWord failure 4 (2 ^ 14) (wordBytes (k + 1) n ++ rest)
      | _ => .error failure := by
  have hlow : (UInt8.ofNat (n % 256)).toNat = n % 256 := by
    rw [UInt8.toNat_ofNat']
    omega
  have hne : UInt8.ofNat (n % 256) ≠ 3 := by
    intro h
    rw [h] at hlow
    have hthree : (3 : UInt8).toNat = 3 := rfl
    omega
  have hmod : n % 256 % 4 = n % 4 := by omega
  rw [wordBytes, List.cons_append, readCount, if_neg hne, hlow, hmod]

theorem readCount_compactBytes (failure : ε) {n : ℕ} (hn : n < 2 ^ 30) (rest : List UInt8) :
    readCount failure (compactBytes n ++ rest) = .ok (n, rest) := by
  unfold compactBytes
  by_cases hsmall : n < 2 ^ 6
  · have hform : 4 * n % 4 = 0 := by omega
    have hquotient : 4 * n / 4 = n := by omega
    have hword := readCompactWord_wordBytes failure 1 0 (4 * n)
      (by omega) (by omega) rest
    rw [if_pos hsmall, readCount_wordBytes failure 0 (4 * n) rest (by omega), hform]
    rwa [hquotient] at hword
  · rw [if_neg hsmall]
    by_cases hmedium : n < 2 ^ 14
    · have hform : (4 * n + 1) % 4 = 1 := by omega
      have hquotient : (4 * n + 1) / 4 = n := by omega
      have hword := readCompactWord_wordBytes failure 2 (2 ^ 6) (4 * n + 1)
        (by omega) (by omega) rest
      rw [if_pos hmedium, readCount_wordBytes failure 1 (4 * n + 1) rest (by omega), hform]
      rwa [hquotient] at hword
    · have hform : (4 * n + 2) % 4 = 2 := by omega
      have hquotient : (4 * n + 2) / 4 = n := by omega
      have hword := readCompactWord_wordBytes failure 4 (2 ^ 14) (4 * n + 2)
        (by omega) (by omega) rest
      rw [if_neg hmedium, readCount_wordBytes failure 3 (4 * n + 2) rest (by omega), hform]
      rwa [hquotient] at hword

theorem readCount_countBytes (failure : ε) (n : ℕ) (rest : List UInt8) :
    readCount failure (countBytes n ++ rest) = .ok (n, rest) := by
  have hsteps : ∀ k, readCount failure
      (List.replicate k 3 ++ (compactBytes (n % 2 ^ 30) ++ rest)) =
        .ok (2 ^ 30 * k + n % 2 ^ 30, rest) := by
    intro k
    induction k with
    | zero =>
      rw [List.replicate_zero, List.nil_append, Nat.mul_zero, Nat.zero_add]
      exact readCount_compactBytes failure (Nat.mod_lt n (by omega)) rest
    | succ k ih =>
      rw [List.replicate_succ, List.cons_append, readCount, if_pos rfl, ih]
      simp only [Except.map]
      congr 2
      omega
  rw [countBytes, List.append_assoc, hsteps]
  congr 2
  omega

def readMany (c : Codec ε α) : ℕ → List UInt8 → Except ε (List α × List UInt8)
  | 0, input => .ok ([], input)
  | n + 1, input => do
    let (a, rest) ← c.decode input
    let (as, rest) ← readMany c n rest
    return (a :: as, rest)

theorem Lawful.readMany {c : Codec ε α} (hc : c.Lawful) (as : List α) (rest : List UInt8) :
    c.readMany as.length (as.flatMap c.encode ++ rest) = .ok (as, rest) := by
  induction as with
  | nil => rfl
  | cons a as ih =>
    simp only [List.length_cons, List.flatMap_cons, List.append_assoc, Codec.readMany, hc a, ih,
      bind, Except.bind, pure, Except.pure]

/-- The count, then the elements. -/
def list (c : Codec ε α) (failure : ε) : Codec ε (List α) where
  encode as := countBytes as.length ++ as.flatMap c.encode
  decode input := do
    let (n, rest) ← readCount failure input
    c.readMany n rest

theorem Lawful.list {c : Codec ε α} (hc : c.Lawful) (failure : ε) : (c.list failure).Lawful := by
  intro as rest
  simp only [Codec.list, List.append_assoc, readCount_countBytes, bind, Except.bind, hc.readMany]

/-! The formats are canonical. -/

theorem Canonical.map {c : Codec ε α} (hc : c.Canonical) {f : α → β} {g : β → α}
    (hgf : ∀ a, g (f a) = a) : (c.map f g).Canonical := by
  intro input b rest h
  obtain ⟨p, hp, heq⟩ := map_eq_ok.mp h
  obtain ⟨rfl, rfl⟩ := Prod.mk.inj heq
  change input = c.encode (g (f p.1)) ++ p.2
  rw [hgf]
  exact hc input p.1 p.2 hp

theorem Canonical.pair {c : Codec ε α} {d : Codec ε β} (hc : c.Canonical) (hd : d.Canonical) :
    (c.pair d).Canonical := by
  intro input p rest h
  obtain ⟨q, hq, h⟩ := bind_eq_ok.mp h
  obtain ⟨r, hr, h⟩ := bind_eq_ok.mp h
  obtain ⟨rfl, rfl⟩ := Prod.mk.inj (Except.ok.inj h)
  rw [hc input q.1 q.2 hq, hd q.2 r.1 r.2 hr]
  exact (List.append_assoc _ _ _).symm

theorem byte_canonical (failure : ε) : (byte failure).Canonical := by
  intro input b rest h
  cases input with
  | nil => cases h
  | cons c input =>
    obtain ⟨rfl, rfl⟩ := Prod.mk.inj (Except.ok.inj h)
    rfl

theorem readWord_canonical (failure : ε) (k : ℕ) {input rest : List UInt8} {n : ℕ}
    (h : readWord failure k input = .ok (n, rest)) :
    n < 256 ^ k ∧ input = wordBytes k n ++ rest := by
  induction k generalizing input n with
  | zero =>
    obtain ⟨rfl, rfl⟩ := Prod.mk.inj (Except.ok.inj h)
    exact ⟨by omega, rfl⟩
  | succ k ih =>
    cases input with
    | nil => cases h
    | cons b input =>
      obtain ⟨p, hp, h⟩ := bind_eq_ok.mp h
      obtain ⟨rfl, rfl⟩ := Prod.mk.inj (Except.ok.inj h)
      obtain ⟨hlt, hinput⟩ := ih hp
      have hb : b.toNat < 256 := b.toNat_lt
      have hlow : (b.toNat + 256 * p.1) % 256 = b.toNat := by omega
      have hhigh : (b.toNat + 256 * p.1) / 256 = p.1 := by omega
      refine ⟨?_, ?_⟩
      · rw [pow_succ]
        omega
      · rw [wordBytes, hlow, hhigh, UInt8.ofNat_toNat, hinput, List.cons_append]

theorem word_canonical (failure : ε) (k : ℕ) : (word failure k).Canonical := by
  intro input a rest h
  obtain ⟨p, hp, heq⟩ := map_eq_ok.mp h
  obtain ⟨rfl, rfl⟩ := Prod.mk.inj heq
  obtain ⟨hlt, hinput⟩ := readWord_canonical failure k hp
  change input = wordBytes k (p.1 % 256 ^ k) ++ p.2
  rw [Nat.mod_eq_of_lt hlt]
  exact hinput

theorem uint16_canonical (failure : ε) : (uint16 failure).Canonical := by
  refine (word_canonical failure 2).map fun n => Fin.ext ?_
  have hn : (n : ℕ) < 2 ^ 16 := n.isLt
  rw [Fin.val_ofNat, UInt16.toNat_ofNat_of_lt' hn, Nat.mod_eq_of_lt n.isLt]

theorem uint64_canonical (failure : ε) : (uint64 failure).Canonical := by
  refine (word_canonical failure 8).map fun n => Fin.ext ?_
  have hn : (n : ℕ) < 2 ^ 64 := n.isLt
  rw [Fin.val_ofNat, UInt64.toNat_ofNat_of_lt' hn, Nat.mod_eq_of_lt n.isLt]

theorem bytes_canonical (failure : ε) (n : ℕ) : (bytes failure n).Canonical := by
  intro input a rest h
  by_cases hlen : n ≤ input.length
  · simp only [bytes, dif_pos hlen] at h
    obtain ⟨rfl, rfl⟩ := Prod.mk.inj (Except.ok.inj h)
    exact (List.take_append_drop n input).symm
  · simp only [bytes, dif_neg hlen] at h
    cases h

theorem Canonical.variant {c : Codec ε α} (hc : c.Canonical) (failure : ε) (tag : UInt8) :
    (c.variant failure tag).Canonical := by
  intro input a rest h
  cases input with
  | nil => cases h
  | cons b input =>
    by_cases htag : b = tag
    · subst htag
      simp only [Codec.variant, if_true] at h
      rw [hc input a rest h]
      rfl
    · simp only [Codec.variant, if_neg htag] at h
      cases h

theorem Canonical.option {c : Codec ε α} (hc : c.Canonical) (failure : ε) :
    (c.option failure).Canonical := by
  intro input a rest h
  simp only [Codec.option] at h
  split at h
  · obtain ⟨rfl, rfl⟩ := Prod.mk.inj (Except.ok.inj h)
    rfl
  · obtain ⟨p, hp, heq⟩ := map_eq_ok.mp h
    obtain ⟨rfl, rfl⟩ := Prod.mk.inj heq
    rw [hc _ _ _ hp]
    rfl
  · cases h

theorem readCompactWord_canonical (failure : ε) {k least n : ℕ} {input rest : List UInt8}
    (h : readCompactWord failure k least input = .ok (n, rest)) :
    ∃ m, m < 256 ^ k ∧ n = m / 4 ∧ least ≤ n ∧ input = wordBytes k m ++ rest := by
  obtain ⟨⟨m, rest'⟩, hm, h⟩ := bind_eq_ok.mp h
  by_cases hleast : least ≤ m / 4
  · simp only [if_pos hleast] at h
    obtain ⟨rfl, rfl⟩ := Prod.mk.inj (Except.ok.inj h)
    obtain ⟨hlt, hinput⟩ := readWord_canonical failure k hm
    exact ⟨m, hlt, rfl, hleast, hinput⟩
  · simp only [if_neg hleast] at h
    cases h

theorem form_of_wordBytes {b : UInt8} {input rest : List UInt8} {k m : ℕ}
    (h : b :: input = wordBytes (k + 1) m ++ rest) : b.toNat % 4 = m % 4 := by
  rw [wordBytes, List.cons_append] at h
  obtain ⟨rfl, -⟩ := List.cons.inj h
  rw [UInt8.toNat_ofNat']
  omega

theorem countBytes_of_lt {n : ℕ} (h : n < 2 ^ 30) : countBytes n = compactBytes n := by
  rw [countBytes, Nat.div_eq_of_lt h, Nat.mod_eq_of_lt h]
  rfl

theorem countBytes_add (n : ℕ) : countBytes (2 ^ 30 + n) = 3 :: countBytes n := by
  have hdiv : (2 ^ 30 + n) / 2 ^ 30 = n / 2 ^ 30 + 1 := by omega
  have hmod : (2 ^ 30 + n) % 2 ^ 30 = n % 2 ^ 30 := by omega
  rw [countBytes, hdiv, hmod, List.replicate_succ, List.cons_append, countBytes]

theorem readCount_canonical (failure : ε) {input rest : List UInt8} {n : ℕ}
    (h : readCount failure input = .ok (n, rest)) : input = countBytes n ++ rest := by
  induction input generalizing n with
  | nil => cases h
  | cons b input ih =>
    by_cases hstep : b = 3
    · subst hstep
      rw [readCount, if_pos rfl] at h
      obtain ⟨p, hp, heq⟩ := map_eq_ok.mp h
      obtain ⟨rfl, rfl⟩ := Prod.mk.inj heq
      rw [countBytes_add, ih hp]
      rfl
    · rw [readCount, if_neg hstep] at h
      split at h
      · rename_i hform
        obtain ⟨m, hm, rfl, -, hinput⟩ := readCompactWord_canonical failure h
        have hm4 := form_of_wordBytes hinput
        have hword : 4 * (m / 4) = m := by omega
        rw [hinput, countBytes_of_lt (by omega), compactBytes, if_pos (by omega), hword]
      · rename_i hform
        obtain ⟨m, hm, rfl, hleast, hinput⟩ := readCompactWord_canonical failure h
        have hm4 := form_of_wordBytes hinput
        have hword : 4 * (m / 4) + 1 = m := by omega
        rw [hinput, countBytes_of_lt (by omega), compactBytes, if_neg (by omega),
          if_pos (by omega), hword]
      · rename_i hform
        obtain ⟨m, hm, rfl, hleast, hinput⟩ := readCompactWord_canonical failure h
        have hm4 := form_of_wordBytes hinput
        have hword : 4 * (m / 4) + 2 = m := by omega
        rw [hinput, countBytes_of_lt (by omega), compactBytes, if_neg (by omega),
          if_neg (by omega), hword]
      · cases h

theorem Canonical.readMany {c : Codec ε α} (hc : c.Canonical) {n : ℕ} {input rest : List UInt8}
    {as : List α} (h : c.readMany n input = .ok (as, rest)) :
    as.length = n ∧ input = as.flatMap c.encode ++ rest := by
  induction n generalizing input as with
  | zero =>
    obtain ⟨rfl, rfl⟩ := Prod.mk.inj (Except.ok.inj h)
    exact ⟨rfl, rfl⟩
  | succ n ih =>
    obtain ⟨p, hp, h⟩ := bind_eq_ok.mp h
    obtain ⟨q, hq, h⟩ := bind_eq_ok.mp h
    obtain ⟨rfl, rfl⟩ := Prod.mk.inj (Except.ok.inj h)
    obtain ⟨hlength, hrest⟩ := ih hq
    refine ⟨by rw [List.length_cons, hlength], ?_⟩
    rw [hc input p.1 p.2 hp, hrest, List.flatMap_cons, List.append_assoc]

theorem Canonical.list {c : Codec ε α} (hc : c.Canonical) (failure : ε) :
    (c.list failure).Canonical := by
  intro input as rest h
  obtain ⟨p, hp, h⟩ := bind_eq_ok.mp h
  obtain ⟨hlength, hrest⟩ := hc.readMany h
  rw [readCount_canonical failure hp, hrest, ← hlength]
  exact (List.append_assoc _ _ _).symm

/-! The formats are inverse. -/

theorem Inverse.map {c : Codec ε α} (hc : c.Inverse) {f : α → β} {g : β → α}
    (hfg : ∀ b, f (g b) = b) (hgf : ∀ a, g (f a) = a) : (c.map f g).Inverse :=
  ⟨hc.lawful.map hfg, hc.canonical.map hgf⟩

theorem Inverse.pair {c : Codec ε α} {d : Codec ε β} (hc : c.Inverse) (hd : d.Inverse) :
    (c.pair d).Inverse :=
  ⟨hc.lawful.pair hd.lawful, hc.canonical.pair hd.canonical⟩

theorem Inverse.variant {c : Codec ε α} (hc : c.Inverse) (failure : ε) (tag : UInt8) :
    (c.variant failure tag).Inverse :=
  ⟨hc.lawful.variant failure tag, hc.canonical.variant failure tag⟩

theorem Inverse.option {c : Codec ε α} (hc : c.Inverse) (failure : ε) :
    (c.option failure).Inverse :=
  ⟨hc.lawful.option failure, hc.canonical.option failure⟩

theorem Inverse.list {c : Codec ε α} (hc : c.Inverse) (failure : ε) : (c.list failure).Inverse :=
  ⟨hc.lawful.list failure, hc.canonical.list failure⟩

theorem byte_inverse (failure : ε) : (byte failure).Inverse :=
  ⟨byte_lawful failure, byte_canonical failure⟩

theorem bytes_inverse (failure : ε) (n : ℕ) : (bytes failure n).Inverse :=
  ⟨bytes_lawful failure n, bytes_canonical failure n⟩

theorem uint16_inverse (failure : ε) : (uint16 failure).Inverse :=
  ⟨uint16_lawful failure, uint16_canonical failure⟩

theorem uint64_inverse (failure : ε) : (uint64 failure).Inverse :=
  ⟨uint64_lawful failure, uint64_canonical failure⟩

end Codec
end ThalerNodelib
