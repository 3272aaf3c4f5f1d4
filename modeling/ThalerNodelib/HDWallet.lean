import ThalerNodelib.KeyPairs
import ThalerNodelib.NumberText
import ThalerNodelib.Templates

/-!
Wallets, and the derivation of key pairs at a path or at a format with
arguments. The arguments are taken one by one while the placeholders of the
format are replaced; the path is the format with each placeholder replaced by
the text of its argument.
-/
namespace ThalerNodelib.Wallets

open Js Native KeyPairs Templates

/-- The package `bip32`. The nodes below a seed have private keys. -/
structure Bip32 where
  Node : Type
  fromSeed : Buffer → Except JsError Node
  derivePath : Node → String → Except JsError Node
  privateKey : Node → Buffer

structure HDWallet where
  seed : Buffer

/-- `ow.array.ofType(ow.number.uint32)` -/
def owArgs (args : List JsNumber) : Option String := args.findSome? owUint32

/-- `\w` -/
def wordChar (c : Char) : Bool := c.isAlphanum || c == '_'

/-- The placeholders `/{\w*}/`. -/
def braces : Marks Char where
  opening := '\x7b'
  closing := '\x7d'
  word := wordChar
  opening_not_word := by decide
  closing_not_word := by decide
  opening_ne_closing := by decide

/-- What a placeholder is replaced by: the next argument. -/
def nextArgument : Method (List JsNumber) (List Char) := do
  match ← get with
  | [] => throw (.error "Insufficient argument for format path")
  | arg :: args => do
    set args
    return arg.toString.toList

/-- Takes the arguments that the placeholders of the format are replaced by. -/
def formattedPath (formatPath : String) : Method (List JsNumber) String := do
  let path ← replaceFrom braces nextArgument 0 formatPath.toList
  let args ← get
  if args.length ≠ 0 then throw (.error "Argument never used")
  return String.ofList path

/-- The path that `derivef` derives at. -/
def derivationPath (formatPath : String) (args : List JsNumber) : Except JsError String := do
  ow (owArgs args) "args"
  match (formattedPath formatPath).run args with
  | .ok path _ => return path
  | .error e _ => throw e

section

variable (native : NativeModule) (bip32 : Bip32) (wallet : HDWallet)

def derive (path : String) : Except JsError (KeyPair native) := do
  let root ← bip32.fromSeed wallet.seed
  let derivedResult ← bip32.derivePath root path
  KeyPair.fromPrivateKey native (bip32.privateKey derivedResult)

def derivef (formatPath : String) (args : List JsNumber) : Except JsError (KeyPair native) := do
  let path ← derivationPath formatPath args
  derive native bip32 wallet path

end

/-- The texts of the arguments. -/
def texts (args : List JsNumber) : List (List Char) := args.map fun arg => arg.toString.toList

theorem mapM_nextArgument {β : Type} (holes : List β) (args : List JsNumber) :
    (holes.mapM fun _ => nextArgument).run args =
      if args.length < holes.length then
        .error (.error "Insufficient argument for format path") []
      else .ok (texts (args.take holes.length)) (args.drop holes.length) := by
  induction holes generalizing args with
  | nil => rfl
  | cons hole holes ih =>
    cases args with
    | nil => rfl
    | cons arg args =>
      have hstep : nextArgument.run (arg :: args) = .ok arg.toString.toList args := rfl
      rw [List.mapM_cons, EStateM.run_bind, hstep]
      simp only [EStateM.run_bind, ih, List.length_cons, Nat.add_lt_add_iff_right]
      by_cases hlt : args.length < holes.length
      · rw [if_pos hlt, if_pos hlt]
      · rw [if_neg hlt, if_neg hlt]
        rfl

/-- How the formatting ends. -/
theorem formattedPath_run {t : Template braces} {formatPath : String}
    (ht : t.text = formatPath.toList) (args : List JsNumber) :
    (formattedPath formatPath).run args =
      if args.length < t.holes.length then
        .error (.error "Insufficient argument for format path") []
      else if t.holes.length < args.length then
        .error (.error "Argument never used") (args.drop t.holes.length)
      else .ok (String.ofList (t.fill (texts args))) [] := by
  unfold formattedPath
  rw [← ht, replaceFrom_text, EStateM.run_bind, run_map, mapM_nextArgument]
  by_cases hshort : args.length < t.holes.length
  · rw [if_pos hshort, if_pos hshort]
  · rw [if_neg hshort, if_neg hshort]
    simp only [EStateM.run_bind, EStateM.run_get, List.length_drop]
    by_cases hlong : t.holes.length < args.length
    · have hrest : args.length - t.holes.length ≠ 0 := by omega
      rw [if_pos hlong, if_pos hrest]
      rfl
    · have hlength : args.length = t.holes.length := by omega
      have hrest : ¬ args.length - t.holes.length ≠ 0 := by omega
      rw [if_neg hlong, if_neg hrest, List.take_of_length_le hlength.le,
        List.drop_of_length_le hlength.le]
      rfl

section

variable {formatPath : String} {args : List JsNumber} {t : Template braces}

theorem derivationPath_insufficient (haccepted : owArgs args = none)
    (ht : t.text = formatPath.toList) (hshort : args.length < t.holes.length) :
    derivationPath formatPath args =
      .error (.error "Insufficient argument for format path") := by
  rw [derivationPath, haccepted, formattedPath_run ht, if_pos hshort]
  rfl

theorem derivationPath_unused (haccepted : owArgs args = none)
    (ht : t.text = formatPath.toList) (hlong : t.holes.length < args.length) :
    derivationPath formatPath args = .error (.error "Argument never used") := by
  rw [derivationPath, haccepted, formattedPath_run ht, if_neg (by omega), if_pos hlong]
  rfl

theorem derivationPath_fill (haccepted : owArgs args = none) (ht : t.text = formatPath.toList)
    (hlength : t.holes.length = args.length) :
    derivationPath formatPath args = .ok (String.ofList (t.fill (texts args))) := by
  rw [derivationPath, haccepted, formattedPath_run ht, if_neg (by omega), if_neg (by omega)]
  rfl

end

/-- The decimal texts of natural numbers. -/
def decimals (values : List ℕ) : List (List Char) := values.map (Nat.toDigits 10)

theorem texts_ofNat {values : List ℕ} (hvalues : ∀ value ∈ values, value ≤ 4294967295) :
    texts (values.map JsNumber.ofNat) = decimals values := by
  rw [texts, decimals, List.map_map]
  apply List.map_congr_left
  intro value hvalue
  have hle := hvalues value hvalue
  rw [Function.comp_apply, JsNumber.toString_ofNat (by omega), Nat.toList_repr]

/-- The accepted arguments are natural numbers. -/
theorem owArgs_eq_none {args : List JsNumber} (h : owArgs args = none) :
    ∃ values : List ℕ, (∀ value ∈ values, value ≤ 4294967295) ∧
      args = values.map JsNumber.ofNat := by
  rw [owArgs, List.findSome?_eq_none_iff] at h
  induction args with
  | nil => exact ⟨[], by simp, rfl⟩
  | cons arg args ih =>
    rw [List.forall_mem_cons] at h
    obtain ⟨value, hvalue, rfl⟩ := owUint_eq_none.mp h.1
    obtain ⟨values, hvalues, rfl⟩ := ih h.2
    exact ⟨value :: values, List.forall_mem_cons.mpr ⟨hvalue, hvalues⟩, rfl⟩

/-- Digits are word characters. -/
theorem name_decimals (values : List ℕ) : ∀ value ∈ decimals values, braces.Name value := by
  intro value hvalue c hc
  obtain ⟨n, -, rfl⟩ := List.mem_map.mp hvalue
  have hdigit := Nat.isDigit_of_mem_toDigits (by omega) (by omega) hc
  show wordChar c = true
  rw [wordChar, Char.isAlphanum, hdigit, Bool.or_true, Bool.true_or]

/-- A format has one template, and `derivef` fills it: it fails with too few or
too many arguments, and else derives at the path with each placeholder replaced
by its argument in decimal. -/
def FormatsPath (native : NativeModule) (bip32 : Bip32) (wallet : HDWallet) (formatPath : String)
    (args : List JsNumber) : Prop :=
  ∃ (t : Template braces) (values : List ℕ),
    args = values.map JsNumber.ofNat ∧
    (∀ u : Template braces, u.text = formatPath.toList ↔ u = t) ∧
    (args.length < t.holes.length →
      derivef native bip32 wallet formatPath args =
        .error (.error "Insufficient argument for format path")) ∧
    (t.holes.length < args.length →
      derivef native bip32 wallet formatPath args = .error (.error "Argument never used")) ∧
    (t.holes.length = args.length →
      derivef native bip32 wallet formatPath args =
        derive native bip32 wallet (String.ofList (t.fill (decimals values))) ∧
      (braces.Contains (t.fill (decimals values)) ↔ t.Enclosed) ∧
      ∀ (renamed : String) (u : Template braces), u.text = renamed.toList → t.Renamed u →
        derivef native bip32 wallet renamed args = derivef native bip32 wallet formatPath args)

/-- The placeholders are replaced one after the other, but as if all at once. -/
theorem derivef_formats (native : NativeModule) (bip32 : Bip32) (wallet : HDWallet)
    (formatPath : String) (args : List JsNumber) (haccepted : owArgs args = none) :
    FormatsPath native bip32 wallet formatPath args := by
  have ht := text_parse (g := braces) formatPath.toList
  obtain ⟨values, hvalues, hargs⟩ := owArgs_eq_none haccepted
  refine ⟨parse braces formatPath.toList, values, hargs, ?_, ?_, ?_, ?_⟩
  · intro u
    constructor
    · intro hu
      rw [← hu, parse_text]
    · intro hu
      rw [hu]
      exact ht
  · intro hshort
    rw [derivef, derivationPath_insufficient haccepted ht hshort]
    rfl
  · intro hlong
    rw [derivef, derivationPath_unused haccepted ht hlong]
    rfl
  · intro hlength
    have hpath := derivationPath_fill haccepted ht hlength
    have hdecimals : (decimals values).length = (parse braces formatPath.toList).holes.length := by
      rw [hlength, hargs, decimals, List.length_map, List.length_map]
    refine ⟨?_, contains_fill_names (name_decimals values) hdecimals, ?_⟩
    · rw [derivef, hpath, hargs, texts_ofNat hvalues]
      rfl
    · intro renamed u hu hrenamed
      have hrenamedPath := derivationPath_fill haccepted hu (hrenamed.length_eq.trans hlength)
      rw [derivef, derivef, hpath, hrenamedPath, hrenamed.fill_eq]

/-- Nodes that are no more than their seed. -/
def Sample.bip32 : Bip32 where
  Node := Buffer
  fromSeed := Except.ok
  derivePath node _ := .ok node
  privateKey := id

theorem derivef_formats_two_arguments :
    FormatsPath Native.Sample.module Sample.bip32 ⟨List.replicate 32 7⟩
      "44'/\x7b\x7d'/2'/0/\x7bINDEX\x7d" [.ofNat 1, .ofNat 3] :=
  derivef_formats _ _ _ _ _ (by decide +kernel)

/-- Braces around a placeholder are left, and make one with its argument. -/
theorem nested_braces_leave_placeholder :
    derivationPath "\x7b\x7b\x7d\x7d" [.ofNat 5] = .ok "\x7b5\x7d" ∧
    braces.Contains "\x7b5\x7d".toList := by
  have hfive : (JsNumber.ofNat 5).toString = "5" := JsNumber.toString_ofNat (by omega)
  have hname : braces.Name ['5'] := by
    rw [Marks.Name, ← List.all_eq_true]
    decide
  have htexts : texts [.ofNat 5] = [['5']] := by
    rw [texts, List.map_singleton, hfive]
    rfl
  have hholes : (parse braces "\x7b\x7b\x7d\x7d".toList).holes.length = 1 := by rfl
  have hfill : (parse braces "\x7b\x7b\x7d\x7d".toList).fill [['5']] = "\x7b5\x7d".toList := by
    rfl
  refine ⟨?_, [], ['5'], [], hname, by decide⟩
  rw [derivationPath_fill (by decide +kernel) (text_parse _) hholes, htexts, hfill,
    String.ofList_toList]

end ThalerNodelib.Wallets
