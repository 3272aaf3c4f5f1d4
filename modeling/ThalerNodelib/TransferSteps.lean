import ThalerNodelib.SampleCrates
import ThalerNodelib.Transfer

/-!
What one call of the builder of transfer transactions does. The two signing
methods start from `toIncompleteHex`, the stored transaction or a new one, and
store it before they ask the native module to extend it.
-/
namespace ThalerNodelib.Transfer

open Js Native Network KeyPairs ThalerNodelib.Types Runs

variable {native : NativeModule} {runtime : Runtime}

namespace TransferTransactionBuilder

/-- The builder that stores the incomplete transaction. -/
def setIncompleteHex (b : TransferTransactionBuilder) (incompleteHex : Buffer) :
    TransferTransactionBuilder :=
  { b with incompleteHex := some incompleteHex }

variable (b : TransferTransactionBuilder)

theorem setIncompleteHex_of_stored {incompleteHex : Buffer}
    (h : b.incompleteHex = some incompleteHex) : b.setIncompleteHex incompleteHex = b := by
  rw [setIncompleteHex, ← h]

theorem feeConfig_linearFee : b.feeConfig.algorithm = .linearFee :=
  owNetworkConfig_linearFee b.network_accepted

/-- The fee of a builder as the native module takes it. -/
def nativeFeeConfig : NativeFeeConfig where
  algorithm := b.feeConfig.algorithm.text
  constant := b.feeConfig.constant.toString10
  coefficient := b.feeConfig.coefficient.toString10

theorem parseFeeConfig_eq : parseFeeConfigForNative b.feeConfig = .ok b.nativeFeeConfig := by
  rw [parseFeeConfigForNative, if_pos b.feeConfig_linearFee]
  rfl

/-- The fee algorithm of an accepted network is never an unsupported one. -/
theorem linearFee_eq {α : Type} (incompleteHex : Option Buffer)
    (function : IncompleteBuilder → Except JsError α) :
    b.linearFee incompleteHex function = function ⟨incompleteHex, b.nativeFeeConfig⟩ := by
  rw [linearFee, if_pos b.feeConfig_linearFee, parseFeeConfig_eq]
  rfl

theorem buildIncompleteHex_eq (native : NativeModule) :
    b.buildIncompleteHex native = native.transferTransaction.buildIncompleteHexLinearFee
      (b.incompleteOptions b.nativeFeeConfig) := by
  rw [buildIncompleteHex, if_pos b.feeConfig_linearFee, buildIncompleteHexLinearFee,
    parseFeeConfig_eq]
  rfl

theorem verifyHasInput_eq_ok : b.verifyHasInput = .ok () ↔ b.hasInput = true := by
  cases h : b.hasInput <;> simp [verifyHasInput, h]

theorem txId_eq (native : NativeModule) (hinput : b.hasInput = true) :
    b.txId native = (b.buildIncompleteHex native).bind fun incompleteHex =>
      native.transferTransaction.txIdLinearFee ⟨some incompleteHex, b.nativeFeeConfig⟩ := by
  rw [txId, (verifyHasInput_eq_ok b).mpr hinput, if_pos b.feeConfig_linearFee]
  simp only [linearFee_eq]
  rfl

end TransferTransactionBuilder

theorem prepareIncompleteSigningHex_run (s : Builder) :
    (prepareIncompleteSigningHex native).run s = match s.toIncompleteHex native with
      | .ok incompleteHex => .ok (some incompleteHex) (s.setIncompleteHex incompleteHex)
      | .error e => .error e s := by
  unfold prepareIncompleteSigningHex TransferTransactionBuilder.toIncompleteHex
    TransferTransactionBuilder.isSigning
  cases hstored : s.incompleteHex with
  | some incompleteHex =>
    simp [hstored, s.setIncompleteHex_of_stored hstored]
  | none =>
    cases hbuild : s.buildIncompleteHex native with
    | ok incompleteHex =>
      simp [hstored, hbuild, TransferTransactionBuilder.setIncompleteHex]
    | error e => simp [hstored, hbuild]

/-- The checks that `addInput` makes before it changes anything. -/
def inputGuard (native : NativeModule) (s : Builder) (input : Input) : Except JsError Unit :=
  match owNative (owInput native input) "input" with
  | .error e => .error e
  | .ok _ =>
    match s.isTransferAddressInNetwork native input.prevOutput.address with
    | .error e => .error e
    | .ok false =>
      .error (.error "Previous output address does not belongs to the builder network")
    | .ok true => .ok ()

/-- The checks that `addOutput` makes before it changes anything. -/
def outputGuard (native : NativeModule) (s : Builder) (output : Output) : Except JsError Unit :=
  match owNative (owOutput native output) "output" with
  | .error e => .error e
  | .ok _ =>
    match s.isTransferAddressInNetwork native output.address with
    | .error e => .error e
    | .ok false => .error (.error "Address does not belongs to the builder network")
    | .ok true => .ok ()

theorem guard_eq_ok (failure : Except JsError (Option String)) (label : String)
    (inNetwork : Except JsError Bool) (message : String) :
    (match owNative failure label with
      | .error e => .error e
      | .ok _ =>
        match inNetwork with
        | .error e => .error e
        | .ok false => .error (.error message)
        | .ok true => .ok () : Except JsError Unit) = .ok () ↔
      failure = .ok none ∧ inNetwork = .ok true := by
  rw [← owNative_eq_ok failure label]
  cases owNative failure label with
  | error e => simp
  | ok _ =>
    cases inNetwork with
    | error e => simp
    | ok accepted => cases accepted <;> simp

variable (native) in
theorem addInput_run (s : Builder) (input : Input) :
    (addInput native input).run s = match inputGuard native s input with
      | .ok _ => .ok () { s.clearIncompleteSigningHex with inputs := s.inputs ++ [input] }
      | .error e => .error e s := by
  unfold inputGuard
  cases how : owNative (owInput native input) "input" with
  | error e => simp [addInput, how]
  | ok _ =>
    cases haddr : s.isTransferAddressInNetwork native input.prevOutput.address with
    | error e => simp [addInput, how, haddr]
    | ok inNetwork =>
      cases inNetwork <;> simp [addInput, how, haddr]
      rfl

variable (native) in
theorem addOutput_run (s : Builder) (output : Output) :
    (addOutput native output).run s = match outputGuard native s output with
      | .ok _ => .ok () { s.clearIncompleteSigningHex with outputs := s.outputs ++ [output] }
      | .error e => .error e s := by
  unfold outputGuard
  cases how : owNative (owOutput native output) "output" with
  | error e => simp [addOutput, how]
  | ok _ =>
    cases haddr : s.isTransferAddressInNetwork native output.address with
    | error e => simp [addOutput, how, haddr]
    | ok inNetwork =>
      cases inNetwork <;> simp [addOutput, how, haddr]
      rfl

variable (native) in
theorem addViewKey_run (s : Builder) (viewKey : Buffer) :
    (addViewKey native viewKey).run s = match owNative (owViewKey native viewKey) "viewKey" with
      | .ok _ => .ok () { s.clearIncompleteSigningHex with viewKeys := s.viewKeys ++ [viewKey] }
      | .error e => .error e s := by
  cases how : owNative (owViewKey native viewKey) "viewKey" with
  | error e => simp [addViewKey, how]
  | ok _ =>
    simp [addViewKey, how]
    rfl

theorem signInput_run (s : Builder) (index : JsNumber) (keyPair : KeyPair native) :
    (signInput native index keyPair).run s =
      match verifySignable native s index keyPair, s.toIncompleteHex native with
      | .error e, _ => .error e s
      | .ok _, .error e => .error e s
      | .ok _, .ok incompleteHex =>
        match native.transferTransaction.signInputLinearFee
          ⟨some incompleteHex, s.nativeFeeConfig⟩ index keyPair.toObject with
        | .ok updated => .ok () (s.setIncompleteHex updated)
        | .error e => .error e (s.setIncompleteHex incompleteHex) := by
  rw [signInput]
  simp only [EStateM.run_bind, EStateM.run_get, run_call]
  cases verifySignable native s index keyPair with
  | error e => rfl
  | ok _ =>
    simp only [prepareIncompleteSigningHex_run]
    cases s.toIncompleteHex native with
    | error e => rfl
    | ok incompleteHex =>
      simp only [TransferTransactionBuilder.linearFee_eq]
      have hfee : (s.setIncompleteHex incompleteHex).nativeFeeConfig = s.nativeFeeConfig := rfl
      rw [hfee]
      cases native.transferTransaction.signInputLinearFee
        ⟨some incompleteHex, s.nativeFeeConfig⟩ index keyPair.toObject <;> rfl

variable (native) in
theorem addWitness_run (s : Builder) (index : JsNumber) (witness : Buffer) :
    (addWitness native index witness).run s =
      match ow (s.owIndex index) "index", s.toIncompleteHex native with
      | .error e, _ => .error e s
      | .ok _, .error e => .error e s
      | .ok _, .ok incompleteHex =>
        match native.transferTransaction.addInputWitnessLinearFee
          ⟨some incompleteHex, s.nativeFeeConfig⟩ index witness with
        | .ok updated => .ok () (s.setIncompleteHex updated)
        | .error e => .error e (s.setIncompleteHex incompleteHex) := by
  rw [addWitness]
  simp only [EStateM.run_bind, EStateM.run_get, run_call]
  cases ow (s.owIndex index) "index" with
  | error e => rfl
  | ok _ =>
    simp only [prepareIncompleteSigningHex_run]
    cases s.toIncompleteHex native with
    | error e => rfl
    | ok incompleteHex =>
      simp only [TransferTransactionBuilder.linearFee_eq]
      have hfee : (s.setIncompleteHex incompleteHex).nativeFeeConfig = s.nativeFeeConfig := rfl
      rw [hfee]
      cases native.transferTransaction.addInputWitnessLinearFee
        ⟨some incompleteHex, s.nativeFeeConfig⟩ index witness <;> rfl

/-- An index that passes the check is one of an input. -/
theorem hasInput_of_owIndex {s : Builder} {index : JsNumber} (h : s.owIndex index = none) :
    s.hasInput = true := by
  rw [TransferTransactionBuilder.owIndex, check_eq_none] at h
  simp only [Bool.and_eq_true] at h
  obtain ⟨⟨-, hle⟩, hlt⟩ := h
  cases index with
  | nan => cases hle
  | infinity negative =>
    cases negative with
    | true => cases hle
    | false => simp [JsNumber.lt, JsNumber.ofNat] at hlt
  | finite q =>
    have hq : (0 : ℚ) ≤ q := by simpa [JsNumber.le, JsNumber.ofNat] using hle
    have hlength : q < (s.inputsLength : ℚ) := by simpa [JsNumber.lt, JsNumber.ofNat] using hlt
    have hpos : 0 < s.inputsLength := by exact_mod_cast lt_of_le_of_lt hq hlength
    have hne : s.inputs.length ≠ 0 := by
      unfold TransferTransactionBuilder.inputsLength at hpos
      omega
    simpa [TransferTransactionBuilder.hasInput] using hne

theorem owIndex_of_verifySignable {s : Builder} {index : JsNumber}
    {keyPair : KeyPair native} (h : verifySignable native s index keyPair = .ok ()) :
    s.owIndex index = none := by
  obtain ⟨_, how, -⟩ := bind_eq_ok.mp h
  exact (ow_eq_ok _ _).mp how

/-- The calls that change the transaction. -/
def Call.isAddition : Call native → Bool
  | .addInput _ => true
  | .addOutput _ => true
  | .addViewKey _ => true
  | _ => false

/-- The calls that add a witness. -/
def Call.isSigning : Call native → Bool
  | .signInput _ _ => true
  | .addWitness _ _ => true
  | _ => false

/-- The ways a call changes a builder. -/
inductive Step (native : NativeModule) (s : Builder) :
    Call native → Except JsError Value → Builder → Prop
  | addInput (input : Input) :
      owInput native input = .ok none →
      s.isTransferAddressInNetwork native input.prevOutput.address = .ok true →
      Step native s (.addInput input) (.ok .this)
        { s.clearIncompleteSigningHex with inputs := s.inputs ++ [input] }
  | addOutput (output : Output) :
      owOutput native output = .ok none →
      s.isTransferAddressInNetwork native output.address = .ok true →
      Step native s (.addOutput output) (.ok .this)
        { s.clearIncompleteSigningHex with outputs := s.outputs ++ [output] }
  | addViewKey (viewKey : Buffer) :
      owViewKey native viewKey = .ok none →
      Step native s (.addViewKey viewKey) (.ok .this)
        { s.clearIncompleteSigningHex with viewKeys := s.viewKeys ++ [viewKey] }
  | signInput (index : JsNumber) (keyPair : KeyPair native) (incompleteHex updated : Buffer) :
      verifySignable native s index keyPair = .ok () →
      s.toIncompleteHex native = .ok incompleteHex →
      native.transferTransaction.signInputLinearFee ⟨some incompleteHex, s.nativeFeeConfig⟩ index
        keyPair.toObject = .ok updated →
      Step native s (.signInput index keyPair) (.ok .undefined) (s.setIncompleteHex updated)
  | addWitness (index : JsNumber) (witness incompleteHex updated : Buffer) :
      s.owIndex index = none → s.toIncompleteHex native = .ok incompleteHex →
      native.transferTransaction.addInputWitnessLinearFee ⟨some incompleteHex, s.nativeFeeConfig⟩
        index witness = .ok updated →
      Step native s (.addWitness index witness) (.ok .undefined) (s.setIncompleteHex updated)
  | kept {c : Call native} {r : Except JsError Value} :
      (∀ v, r = .ok v → c.isAddition = false ∧ c.isSigning = false) → Step native s c r s
  | prepared {c : Call native} {e : JsError} (incompleteHex : Buffer) :
      s.hasInput = true → s.toIncompleteHex native = .ok incompleteHex → c.isSigning = true →
      Step native s c (.error e) (s.setIncompleteHex incompleteHex)

theorem step_throws {s : Builder} {c : Call native} {e : JsError}
    (h : (machine native runtime c).run s = .error e s) :
    Step native s c (outcome (machine native runtime) s c) (next (machine native runtime) s c) :=
  of_run_error h (.kept (by simp))

/-- Every call is one of the listed changes. -/
theorem step (s : Builder) (c : Call native) :
    Step native s c (outcome (machine native runtime) s c)
      (next (machine native runtime) s c) := by
  cases c with
  | addInput input =>
    have hrun := addInput_run native s input
    cases hguard : inputGuard native s input with
    | error e => exact step_throws (e := e) (by simp [machine, hrun, hguard])
    | ok _ =>
      obtain ⟨haccepted, hnet⟩ := (guard_eq_ok _ _ _ _).mp hguard
      exact of_run_ok (by simp [machine, hrun, hguard]) (.addInput input haccepted hnet)
  | addOutput output =>
    have hrun := addOutput_run native s output
    cases hguard : outputGuard native s output with
    | error e => exact step_throws (e := e) (by simp [machine, hrun, hguard])
    | ok _ =>
      obtain ⟨haccepted, hnet⟩ := (guard_eq_ok _ _ _ _).mp hguard
      exact of_run_ok (by simp [machine, hrun, hguard]) (.addOutput output haccepted hnet)
  | addViewKey viewKey =>
    have hrun := addViewKey_run native s viewKey
    cases how : owNative (owViewKey native viewKey) "viewKey" with
    | error e => exact step_throws (e := e) (by simp [machine, hrun, how])
    | ok _ =>
      exact of_run_ok (by simp [machine, hrun, how])
        (.addViewKey viewKey ((owNative_eq_ok _ _).mp how))
  | signInput index keyPair =>
    have hrun := signInput_run s index keyPair
    cases hverify : verifySignable native s index keyPair with
    | error e => exact step_throws (e := e) (by simp [machine, hrun, hverify])
    | ok _ =>
      cases hhex : s.toIncompleteHex native with
      | error e => exact step_throws (e := e) (by simp [machine, hrun, hverify, hhex])
      | ok incompleteHex =>
        cases hsign : native.transferTransaction.signInputLinearFee
            ⟨some incompleteHex, s.nativeFeeConfig⟩ index keyPair.toObject with
        | error e =>
          exact of_run_error (e := e) (by simp [machine, hrun, hverify, hhex, hsign])
            (.prepared incompleteHex (hasInput_of_owIndex (owIndex_of_verifySignable hverify))
              hhex rfl)
        | ok updated =>
          exact of_run_ok (by simp [machine, hrun, hverify, hhex, hsign])
            (.signInput index keyPair incompleteHex updated hverify hhex hsign)
  | addWitness index witness =>
    have hrun := addWitness_run native s index witness
    cases how : ow (s.owIndex index) "index" with
    | error e => exact step_throws (e := e) (by simp [machine, hrun, how])
    | ok _ =>
      cases hhex : s.toIncompleteHex native with
      | error e => exact step_throws (e := e) (by simp [machine, hrun, how, hhex])
      | ok incompleteHex =>
        cases hadd : native.transferTransaction.addInputWitnessLinearFee
            ⟨some incompleteHex, s.nativeFeeConfig⟩ index witness with
        | error e =>
          exact of_run_error (e := e) (by simp [machine, hrun, how, hhex, hadd])
            (.prepared incompleteHex (hasInput_of_owIndex ((ow_eq_ok _ _).mp how)) hhex rfl)
        | ok updated =>
          exact of_run_ok (by simp [machine, hrun, how, hhex, hadd])
            (.addWitness index witness incompleteHex updated ((ow_eq_ok _ _).mp how) hhex hadd)
  | query q =>
    cases hq : answer native runtime s q with
    | error e => exact step_throws (e := e) (by simp [machine, hq])
    | ok v =>
      exact of_run_ok (v := v) (by simp [machine, hq])
        (.kept (by simp [Call.isAddition, Call.isSigning]))

/-- The input that a call adds, if it succeeds. -/
def Call.input : Call native → Option Input
  | .addInput input => some input
  | _ => none

/-- The output that a call adds, if it succeeds. -/
def Call.output : Call native → Option Output
  | .addOutput output => some output
  | _ => none

/-- The view key that a call adds, if it succeeds. -/
def Call.viewKey : Call native → Option Buffer
  | .addViewKey viewKey => some viewKey
  | _ => none

/-- The step of a call, by what it returned or threw. -/
theorem step_of_outcome {s : Builder} {c : Call native} {r : Except JsError Value}
    (h : outcome (machine native runtime) s c = r) :
    Step native s c r (next (machine native runtime) s c) := by
  rw [← h]
  exact step s c

/-- What every reachable builder keeps of its history. -/
structure History (native : NativeModule) (s₀ : Builder)
    (log : Log JsError Builder (Call native) Value) (s : Builder) : Prop where
  network : s.network = s₀.network
  inputs : s.inputs = accepted Call.input log
  outputs : s.outputs = accepted Call.output log
  viewKeys : s.viewKeys = accepted Call.viewKey log
  inputs_accepted : ∀ input ∈ s.inputs, owInput native input = .ok none ∧
    s.isTransferAddressInNetwork native input.prevOutput.address = .ok true
  outputs_accepted : ∀ output ∈ s.outputs, owOutput native output = .ok none ∧
    s.isTransferAddressInNetwork native output.address = .ok true
  viewKeys_accepted : ∀ viewKey ∈ s.viewKeys, owViewKey native viewKey = .ok none

/-- A call that adds nothing leaves the history as it is. -/
theorem History.other {s₀ s t : Builder} {log : Log JsError Builder (Call native) Value}
    {e : Entry JsError Builder (Call native) Value} (hs : History native s₀ log s)
    (h : e.succeeded = true → e.call.isAddition = false) (hnetwork : t.network = s.network)
    (hinputs : t.inputs = s.inputs) (houtputs : t.outputs = s.outputs)
    (hviewKeys : t.viewKeys = s.viewKeys) : History native s₀ (e :: log) t := by
  have hnone : ∀ {α : Type} (part : Call native → Option α),
      (∀ c, c.isAddition = false → part c = none) → accepted part (e :: log) = accepted part log :=
    fun part hpart => accepted_none (fun hok => hpart e.call (h hok)) log
  have hinNetwork : ∀ address, t.isTransferAddressInNetwork native address =
      s.isTransferAddressInNetwork native address := by
    intro address
    simp only [TransferTransactionBuilder.isTransferAddressInNetwork, hnetwork]
  refine ⟨hnetwork.trans hs.network, ?_, ?_, ?_, ?_, ?_, ?_⟩
  · rw [hinputs, hs.inputs, hnone Call.input fun c hc => by cases c <;> first | rfl | cases hc]
  · rw [houtputs, hs.outputs, hnone Call.output fun c hc => by cases c <;> first | rfl | cases hc]
  · rw [hviewKeys, hs.viewKeys, hnone Call.viewKey fun c hc => by cases c <;> first | rfl | cases hc]
  · simpa only [hinputs, hinNetwork] using hs.inputs_accepted
  · simpa only [houtputs, hinNetwork] using hs.outputs_accepted
  · simpa only [hviewKeys] using hs.viewKeys_accepted

theorem History.step {s₀ s t : Builder} {log : Log JsError Builder (Call native) Value}
    {c : Call native} {r : Except JsError Value} (hs : History native s₀ log s)
    (h : Step native s c r t) : History native s₀ (⟨s, c, r⟩ :: log) t := by
  cases h with
  | addInput input haccepted hnet =>
    refine ⟨hs.network, ?_, ?_, ?_, ?_, hs.outputs_accepted, hs.viewKeys_accepted⟩
    · exact (congrArg (· ++ [input]) hs.inputs).trans (accepted_some (by rfl) (by rfl) log).symm
    · exact hs.outputs.trans (accepted_none (fun _ => by rfl) log).symm
    · exact hs.viewKeys.trans (accepted_none (fun _ => by rfl) log).symm
    · intro i hi
      rcases List.mem_append.mp hi with hold | hnew
      · exact hs.inputs_accepted i hold
      · obtain rfl := List.mem_singleton.mp hnew
        exact ⟨haccepted, hnet⟩
  | addOutput output haccepted hnet =>
    refine ⟨hs.network, ?_, ?_, ?_, hs.inputs_accepted, ?_, hs.viewKeys_accepted⟩
    · exact hs.inputs.trans (accepted_none (fun _ => by rfl) log).symm
    · exact (congrArg (· ++ [output]) hs.outputs).trans (accepted_some (by rfl) (by rfl) log).symm
    · exact hs.viewKeys.trans (accepted_none (fun _ => by rfl) log).symm
    · intro o ho
      rcases List.mem_append.mp ho with hold | hnew
      · exact hs.outputs_accepted o hold
      · obtain rfl := List.mem_singleton.mp hnew
        exact ⟨haccepted, hnet⟩
  | addViewKey viewKey haccepted =>
    refine ⟨hs.network, ?_, ?_, ?_, hs.inputs_accepted, hs.outputs_accepted, ?_⟩
    · exact hs.inputs.trans (accepted_none (fun _ => by rfl) log).symm
    · exact hs.outputs.trans (accepted_none (fun _ => by rfl) log).symm
    · exact (congrArg (· ++ [viewKey]) hs.viewKeys).trans (accepted_some (by rfl) (by rfl) log).symm
    · intro k hk
      rcases List.mem_append.mp hk with hold | hnew
      · exact hs.viewKeys_accepted k hold
      · obtain rfl := List.mem_singleton.mp hnew
        exact haccepted
  | signInput index keyPair incompleteHex updated _ _ _ =>
    exact hs.other (fun _ => rfl) rfl rfl rfl rfl
  | addWitness index witness incompleteHex updated _ _ _ =>
    exact hs.other (fun _ => rfl) rfl rfl rfl rfl
  | kept hno =>
    refine hs.other (fun hok => ?_) rfl rfl rfl rfl
    obtain ⟨v, hv⟩ := (Entry.succeeded_iff _).mp hok
    exact (hno v hv).1
  | prepared incompleteHex _ _ _ =>
    refine hs.other (fun hok => ?_) rfl rfl rfl rfl
    cases hok

theorem History.start {options : Option TransferTransactionBuilderOptions} {s₀ : Builder}
    (h : TransferTransactionBuilder.new options = .ok s₀) : History native s₀ [] s₀ := by
  obtain ⟨_, rfl⟩ := TransferTransactionBuilder.new_eq_ok.mp h
  exact ⟨rfl, rfl, rfl, rfl, fun input h => (List.not_mem_nil h).elim,
    fun output h => (List.not_mem_nil h).elim, fun viewKey h => (List.not_mem_nil h).elim⟩

theorem History.run {s₀ s : Builder} {log : Log JsError Builder (Call native) Value}
    (hs₀ : History native s₀ [] s₀) (run : Run (machine native runtime) s₀ log s) :
    History native s₀ log s :=
  run.invariant (History native s₀) hs₀ fun _ _ c _ hs => hs.step (Transfer.step _ c)

/-! A builder on the sample crates, and its runs. -/
namespace Sample

theorem options_accepted : owTransferTransactionBuilderOptions none = none := rfl

def start : Builder := .empty none options_accepted

theorem new_options : TransferTransactionBuilder.new none = .ok start :=
  TransferTransactionBuilder.new_eq_ok.mpr ⟨options_accepted, rfl⟩

def output : Output := ⟨Crates.Sample.transferAddress 7, .ofNat 1, none⟩

/-- An input that the key pair of the byte unlocks, with the given numbers of signers. -/
def input (b : UInt8) (required total : ℕ) : Input where
  prevTxId := hexEncode (Crates.Sample.privateKey b)
  prevIndex := .ofNat 0
  prevOutput := ⟨Crates.Sample.transferAddress b, .ofNat 5, none⟩
  addressParams := ⟨.ofNat required, .ofNat total⟩

def run (calls : List (Call Crates.Sample.module)) :
    Log JsError Builder (Call Crates.Sample.module) Value × Builder :=
  execute (machine Crates.Sample.module Native.Sample.runtime) start calls

end Sample

end ThalerNodelib.Transfer
