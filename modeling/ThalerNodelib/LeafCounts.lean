import ThalerNodelib.Leaves
import ThalerNodelib.SampleCrates
import ThalerNodelib.TransferPayload

/-!
The number of leaves that the native module hands to `addInput` for an input,
against the number of sets of required signers among all signers. The native
module reads the required number twice, so it computes with equal numbers.
-/
namespace ThalerNodelib.Transfer

open Js Native Network KeyPairs ThalerNodelib.Types Runs Crates FunctionTypes NativeTransfer
  NativeFromCrates

/-- The natural number that an accepted count of signers is. -/
def signers (x : JsNumber) : ℕ := x.arrayIndex.getD 0

/-- The number of sets of required signers among all signers. -/
def signerSets (params : InputAddressParams) : ℕ :=
  (signers params.totalSigners).choose (signers params.requiredSigners)

/-- The inputs for which the count comes out right. -/
def AllSignersRequired (input : Input) : Prop :=
  signers input.addressParams.totalSigners = signers input.addressParams.requiredSigners ∧
    signers input.addressParams.requiredSigners ≤ 67

instance (input : Input) : Decidable (AllSignersRequired input) :=
  inferInstanceAs (Decidable (_ ∧ _))

variable {crates : Crates} {multiSig : MultiSigModule} {runtime : Runtime}

theorem ofNat_of_positiveInteger {x : JsNumber} (h : owPositiveInteger x = none) :
    ∃ n, 0 < n ∧ x = .ofNat n := by
  rw [owPositiveInteger, check_eq_none, Bool.and_eq_true] at h
  obtain ⟨hint, hpos⟩ := h
  cases x with
  | nan => cases hint
  | infinity negative => cases hint
  | finite q =>
    have hden : q.den = 1 := by simpa [JsNumber.isInteger] using hint
    have hq : 0 < q := by simpa [JsNumber.lt, JsNumber.ofNat] using hpos
    have hnum : 0 < q.num := Rat.num_pos.mpr hq
    refine ⟨q.num.toNat, by omega, ?_⟩
    have hcast : ((q.num.toNat : ℕ) : ℤ) = q.num := Int.toNat_of_nonneg hnum.le
    have hval : ((q.num.toNat : ℕ) : ℚ) = q := by
      calc
        ((q.num.toNat : ℕ) : ℚ) = (q.num : ℚ) := by exact_mod_cast hcast
        _ = q := Rat.coe_int_num_of_den_eq_one hden
    rw [JsNumber.ofNat, hval]

/-- The checks of an input leave it with `1 ≤ required ≤ total`. -/
theorem signers_of_accepted {native : NativeModule} {input : Input}
    (h : owInput native input = .ok none) :
    ∃ required total, 0 < required ∧ required ≤ total ∧
      input.addressParams = ⟨.ofNat required, .ofNat total⟩ := by
  obtain ⟨output, -, hrest⟩ := bind_eq_ok.mp h
  have hnone := Except.ok.inj hrest
  simp only [Option.orElse_eq_orElse, Option.orElse_eq_or, Option.or_eq_none_iff,
    owInputAddressParams] at hnone
  obtain ⟨-, -, -, hrequired, htotal, hle⟩ := hnone
  obtain ⟨required, hpos, hr⟩ := ofNat_of_positiveInteger hrequired
  obtain ⟨total, -, ht⟩ := ofNat_of_positiveInteger htotal
  refine ⟨required, total, hpos, ?_, ?_⟩
  · rw [check_eq_none, hr, ht] at hle
    simpa [JsNumber.le, JsNumber.ofNat] using hle
  · rw [← hr, ← ht]

theorem parseInput_addressParams {input : NativeInput} {network : NetworkEnum}
    {parsed : RawTransactionOptionsInput crates} (h : parseInput crates input network = .ok parsed) :
    parsed.addressParams = parseAddressParams input.addressParams := by
  obtain ⟨id, -, h⟩ := bind_eq_ok.mp h
  obtain ⟨txOut, -, h⟩ := bind_eq_ok.mp h
  rw [← Except.ok.inj h]

theorem inputLeaves_eq_ok {input : RawTransactionOptionsInput crates} {count : UInt16} :
    inputLeaves crates input = .ok count ↔
      transferAddressLeaves input.addressParams.totalSigners
        input.addressParams.requiredSigners = .leaves count := by
  unfold inputLeaves
  cases transferAddressLeaves input.addressParams.totalSigners
    input.addressParams.requiredSigners <;> simp

/-- An input is registered with one leaf or none, whatever the total. -/
theorem leaves_eq_choose_iff {required total : ℕ} (hpos : 0 < required) (hle : required ≤ total)
    {count : UInt16}
    (h : transferAddressLeaves ((JsNumber.ofNat required).toUnsigned 64)
      ((JsNumber.ofNat required).toUnsigned 64) = .leaves count) :
    count.toNat = total.choose required ↔ total = required ∧ required ≤ 67 := by
  rw [JsNumber.toUnsigned_ofNat, transferAddressLeaves_self (by omega)] at h
  by_cases hsmall : required ≤ 67
  · rw [if_pos (by omega)] at h
    obtain rfl : 1 = count := LeavesOutcome.leaves.inj h
    have hone : (1 : UInt16).toNat = 1 := rfl
    rw [hone, eq_comm, Nat.choose_eq_one_iff]
    omega
  · rw [if_neg (by omega)] at h
    by_cases hfits : min required (2 ^ 64 - 1) + 1 < 2 ^ 64
    · rw [if_pos hfits] at h
      obtain rfl : 0 = count := LeavesOutcome.leaves.inj h
      have hzero : (0 : UInt16).toNat = 0 := rfl
      have hchoose : 0 < total.choose required := Nat.choose_pos hle
      omega
    · rw [if_neg hfits] at h
      cases h

/-- The count of an accepted input comes out right exactly when all its signers
are required, and are at most 67. -/
theorem count_eq_signerSets_iff {native : NativeModule} {network : NetworkEnum} {input : Input}
    {parsed : RawTransactionOptionsInput crates} {count : UInt16}
    (haccepted : owInput native input = .ok none)
    (hparsed : parseInput crates (parseInputForNative input) network = .ok parsed)
    (hcount : inputLeaves crates parsed = .ok count) :
    count.toNat = signerSets input.addressParams ↔ AllSignersRequired input := by
  obtain ⟨required, total, hpos, hle, hparams⟩ := signers_of_accepted haccepted
  have hnative : parsed.addressParams = parseAddressParams input.addressParams :=
    parseInput_addressParams hparsed
  rw [inputLeaves_eq_ok, hnative, hparams] at hcount
  have hiff := leaves_eq_choose_iff hpos hle hcount
  simpa [AllSignersRequired, signerSets, signers, hparams, JsNumber.arrayIndex_ofNat] using hiff

variable (crates) in
/-- A transaction that was built reads back as the raw builder that was handed its
inputs one by one, each with a number of leaves that is related to the input. -/
def Registers (contents : crates.core.Builder → RawContents crates.types) (s : Builder)
    (incompleteHex : Buffer) (R : Input → UInt16 → Prop) : Prop :=
  ∃ raw parsed,
    incompleteBuilderLinearFeeArgument crates ⟨some incompleteHex, s.nativeFeeConfig⟩ = .ok raw ∧
    raw = rawBuilder crates parsed (contents raw).inputs ∧
    List.Forall₂ (fun input registered => R input registered.2) s.inputs (contents raw).inputs

variable {contents : crates.core.Builder → RawContents crates.types}
  {witnesses : crates.core.Builder → List (Option crates.types.TxInWitness)}

/-- Whenever a reachable builder is built, an input is handed over with as many
leaves as there are sets of its required signers exactly when it requires all its
signers, and those are at most 67. -/
theorem registers_signer_sets_iff
    (laws : RawBuilderLaws crates.core crates.transactions contents witnesses)
    {options : Option TransferTransactionBuilderOptions} {s₀ s : Builder}
    {log : Log JsError Builder (Call (nativeModule crates multiSig)) Value}
    (hnew : TransferTransactionBuilder.new options = .ok s₀)
    (run : Run (machine (nativeModule crates multiSig) runtime) s₀ log s)
    {incompleteHex : Buffer}
    (h : s.buildIncompleteHex (nativeModule crates multiSig) = .ok incompleteHex) :
    Registers crates contents s incompleteHex fun input leaves =>
      leaves.toNat = signerSets input.addressParams ↔ AllSignersRequired input := by
  have haccepted := ((History.start hnew).run run).inputs_accepted
  obtain ⟨parsed, registered, hparsed, hregistered, rfl⟩ := rawBuilder_of_build h
  have hdecodes := rawBuilder_decodes laws hparsed hregistered
  have hinputs : (contents (rawBuilder crates parsed registered)).inputs = registered := by
    rw [rawBuilder_contents laws]
  refine ⟨_, parsed, hdecodes.decoded, by rw [hinputs], ?_⟩
  have hmarshalled := hdecodes.marshalled.inputs
  rw [List.forall₂_iff_get] at hmarshalled ⊢
  refine ⟨hmarshalled.1, fun i hi hi' => ?_⟩
  obtain ⟨p, hinput, -, hcount⟩ := hmarshalled.2 i hi hi'
  exact count_eq_signerSets_iff (haccepted _ (List.get_mem ..)).1 hinput hcount

/-- What the builder reached by some calls is built as. -/
def Sample.builtBy (calls : List (Call Crates.Sample.module)) : Buffer :=
  ((Sample.run calls).2.buildIncompleteHex Crates.Sample.module).toOption.getD []

theorem registers_signer_sets_two_of_two :
    Registers Crates.Sample.crates Prod.fst (Sample.run [.addInput (Sample.input 7 2 2)]).2
      (Sample.builtBy [.addInput (Sample.input 7 2 2)]) fun input leaves =>
        leaves.toNat = signerSets input.addressParams ↔ AllSignersRequired input :=
  registers_signer_sets_iff Crates.Sample.raw_builder_laws Sample.new_options
    (run_execute (machine Crates.Sample.module Native.Sample.runtime) _ _) (by decide +kernel)

/-- Two inputs, the second of which leaves one of its signers out. -/
def Sample.oneOfTwo : List (Call Crates.Sample.module) :=
  [.addInput (Sample.input 7 1 1), .addInput (Sample.input 7 1 2)]

/-- One of one and one of two signers are handed over alike. -/
theorem one_of_two_registers_one_leaf :
    TransferTransactionBuilder.new none = .ok Sample.start ∧
    Run (machine Crates.Sample.module Native.Sample.runtime) Sample.start
      (Sample.run Sample.oneOfTwo).1 (Sample.run Sample.oneOfTwo).2 ∧
    (Sample.run Sample.oneOfTwo).2.inputs = [Sample.input 7 1 1, Sample.input 7 1 2] ∧
    (Sample.run Sample.oneOfTwo).2.buildIncompleteHex Crates.Sample.module =
      .ok (Sample.builtBy Sample.oneOfTwo) ∧
    (incompleteBuilderLinearFeeArgument Crates.Sample.crates
      ⟨some (Sample.builtBy Sample.oneOfTwo), Sample.start.nativeFeeConfig⟩).map
        (fun raw => raw.1.inputs.map Prod.snd) = .ok [1, 1] ∧
    ¬ Registers Crates.Sample.crates Prod.fst (Sample.run Sample.oneOfTwo).2
      (Sample.builtBy Sample.oneOfTwo) fun input leaves =>
        leaves.toNat = signerSets input.addressParams := by
  have hinputs : (Sample.run Sample.oneOfTwo).2.inputs =
      [Sample.input 7 1 1, Sample.input 7 1 2] := by decide +kernel
  have hleaves : (incompleteBuilderLinearFeeArgument Crates.Sample.crates
      ⟨some (Sample.builtBy Sample.oneOfTwo), Sample.start.nativeFeeConfig⟩).map
        (fun raw => raw.1.inputs.map Prod.snd) = .ok [1, 1] := by decide +kernel
  refine ⟨Sample.new_options, run_execute _ _ _, hinputs, by decide +kernel, hleaves, ?_⟩
  rintro ⟨raw, -, hraw, -, hregistered⟩
  have hfee : (Sample.run Sample.oneOfTwo).2.nativeFeeConfig = Sample.start.nativeFeeConfig := by
    decide +kernel
  rw [hfee] at hraw
  rw [hraw] at hleaves
  have hone : raw.1.inputs.map Prod.snd = [1, 1] := Except.ok.inj hleaves
  have hcounts : List.Forall₂ (fun (input : Input) (leaves : UInt16) =>
      leaves.toNat = signerSets input.addressParams) [Sample.input 7 1 1, Sample.input 7 1 2]
      [1, 1] := by
    rw [← hinputs, ← hone]
    exact List.forall₂_map_right_iff.mpr hregistered
  have hsecond : (1 : UInt16).toNat = signerSets (Sample.input 7 1 2).addressParams := by
    rcases hcounts with _ | ⟨-, htail⟩
    rcases htail with _ | ⟨hsecond, -⟩
    exact hsecond
  revert hsecond
  decide +kernel

end ThalerNodelib.Transfer
