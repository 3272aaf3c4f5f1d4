import ThalerNodelib.SignedHex
import ThalerNodelib.TransferPayload

/-!
The number of outputs that an exported transaction declares. The mock ciphers
cast the length of the list to 16 bits. The builder of withdrawals stops at
65536 outputs and that of transfers never, so both reach lengths that the cast
does not keep.
-/
namespace ThalerNodelib.OutputCounts

open Js Native Network KeyPairs ThalerNodelib.Types Runs Crates FunctionTypes NativeExport
  NativeFromCrates NativeStaking

variable {crates : Crates} {multiSig : MultiSigModule} {runtime : Runtime}

/-- A length is kept by the cast when it is at most the greatest of 16 bits. -/
theorem castLength_iff (n : ℕ) : (UInt16.ofNat n).toNat = n ↔ n ≤ 65535 := by
  rw [UInt16.toNat_ofNat']
  omega

theorem features_test (h : runtime.nodeEnv = some "test") :
    getRustFeaturesFromEnv runtime.nodeEnv = .mockObfuscation := by rw [h]; rfl

end ThalerNodelib.OutputCounts

namespace ThalerNodelib.WithdrawUnbonded

open Js Native Network KeyPairs ThalerNodelib.Types Runs Crates FunctionTypes NativeExport
  NativeFromCrates NativeStaking

variable {crates : Crates} {multiSig : MultiSigModule} {runtime : Runtime}

theorem addOutput_next {native : NativeModule} {s : Builder} {output : Output}
    (haccepted : owWithdrawUnbondedOutput native output = .ok none)
    (hlength : s.outputs.length ≠ maxOutputSize)
    (hnetwork : s.isTransferAddressInNetwork native output.address = .ok true) :
    next (machine native runtime) s (.addOutput output) =
      { s.clearPreparedRawTx with outputs := s.outputs ++ [output] } := by
  have hguard := (outputGuard_eq_ok s output).mpr ⟨haccepted, hlength, hnetwork⟩
  exact next_ok (v := .this) (by simp [machine, addOutput_run, hguard])

/-- A new builder takes an accepted output as many times as the maximum. -/
theorem addOutputs_state {native : NativeModule} {options : WithdrawUnbondedTransactionBuilderOptions}
    {s₀ : Builder} (hnew : WithdrawUnbondedTransactionBuilder.new options = .ok s₀) {output : Output}
    (haccepted : owWithdrawUnbondedOutput native output = .ok none)
    (hnetwork : s₀.isTransferAddressInNetwork native output.address = .ok true) {n : ℕ}
    (hn : n ≤ maxOutputSize) :
    (execute (machine native runtime) s₀ (List.replicate n (.addOutput output))).2 =
      { s₀ with outputs := List.replicate n output } := by
  obtain ⟨hoptions, rfl⟩ := WithdrawUnbondedTransactionBuilder.new_eq_ok.mp hnew
  rw [execute_state]
  induction n with
  | zero => rfl
  | succ n ih =>
    have hlength : (List.replicate n output).length ≠ maxOutputSize := by
      rw [List.length_replicate]
      omega
    rw [List.replicate_succ', List.foldl_append, ih (Nat.le_of_succ_le hn), List.foldl_cons,
      List.foldl_nil]
    refine (addOutput_next (s := { WithdrawUnbondedTransactionBuilder.empty options hoptions with
      outputs := List.replicate n output }) haccepted hlength hnetwork).trans ?_
    rw [List.replicate_succ']
    rfl

/-- A builder that can be encoded is signed with any private key. -/
theorem sign_isOk (laws : ExportLaws crates) {s₀ s : Builder}
    {log : Log JsError Builder (Call (nativeModule crates multiSig)) Value}
    (hs : Replay (nativeModule crates multiSig) s₀ log s) (houtput : s.hasOutput = true)
    (hencodable : Encodable s) {keyPair : KeyPair (nativeModule crates multiSig)}
    (hkey : keyPair.hasPrivateKey = true) :
    ∃ v, outcome (machine (nativeModule crates multiSig) runtime) s (.sign keyPair) = .ok v := by
  obtain ⟨rawTx, hb⟩ := build_isOk laws hs houtput hencodable
  obtain ⟨tx, rfl⟩ := rawTxObject_of_build hb
  obtain ⟨witness, hwitness⟩ := (signId_isOk_iff laws.toSigningLaws
    (crates.transactions.withdrawUnbondedTx.id tx) keyPair).mpr hkey
  have hsign : (nativeModule crates multiSig).stakingTransaction.withdrawUnbondedTransactionToWitness
      (some (rawTxObject crates.transactions.withdrawUnbondedTx tx).unsignedRawTx)
      keyPair.toObject = .ok (crates.transactions.stakedStateOpWitness.encode witness) :=
    bind_eq_ok.mpr ⟨tx, txArgument_rawTxObject crates laws.withdrawUnbondedTx tx,
      bind_eq_ok.mpr ⟨witness, hwitness, rfl⟩⟩
  exact ⟨.this, outcome_ok (by simp [machine, sign_run hs.coherent, hb, hsign]; rfl)⟩

/-- Signed in one call, it is exported in the next. -/
theorem sign_toHex (laws : ExportLaws crates) {s₀ s : Builder}
    {log : Log JsError Builder (Call (nativeModule crates multiSig)) Value}
    (hs : Replay (nativeModule crates multiSig) s₀ log s) (hunsigned : s.witness = none)
    (houtput : s.hasOutput = true) (hencodable : Encodable s)
    {keyPair : KeyPair (nativeModule crates multiSig)} (hkey : keyPair.hasPrivateKey = true)
    {address : Option String}
    (haddress : owTendermintAddress runtime (address.getD defaultTendermintAddress) = none) :
    ∃ v, outcome (machine (nativeModule crates multiSig) runtime)
      (next (machine (nativeModule crates multiSig) runtime) s (.sign keyPair)) (.toHex address) =
        .ok v := by
  obtain ⟨v, hv⟩ : ∃ v, outcome (machine (nativeModule crates multiSig) runtime) s (.sign keyPair) =
    .ok v := sign_isOk laws hs houtput hencodable hkey
  have hstep := step_of_outcome hs.coherent hv
  have ht := hs.step hstep
  have hready := hstep.ready laws hs (fun witness hw => by rw [hunsigned] at hw; cases hw)
    (fun witness v h => by cases h)
  generalize next (machine (nativeModule crates multiSig) runtime) s (.sign keyPair) = t
    at hstep hready ht ⊢
  cases hstep with
  | sign _ rawTx witness _ _ => exact (hready witness rfl).toHex laws ht rfl haddress
  | kept hno => cases (hno v rfl).2
  | filled rawTx hno _ => cases (hno v rfl).2

/-- The mock export declares the length of the list, cast to 16 bits. -/
theorem toHex_count (formats : FormatLaws crates.transactions)
    (hmock : runtime.nodeEnv = some "test") {s : Builder}
    (hs : (cell (nativeModule crates multiSig)).Coherent s) {address : Option String} {v : Value}
    (h : outcome (machine (nativeModule crates multiSig) runtime) s (.toHex address) = .ok v) :
    ∃ hex witness payload, v = .buffer hex ∧ crates.transactions.txAux.read hex =
      .ok (.enclaveTx (.withdrawUnbondedStakeTx (UInt16.ofNat s.outputs.length) witness payload)) := by
  obtain ⟨⟨bytes, hw⟩, haddress⟩ := checks_of_toHex hs h
  rw [toHex_outcome hs hw haddress] at h
  obtain ⟨hex, hhex, rfl⟩ := map_eq_ok.mp h
  obtain ⟨rawTx, hb, hhex⟩ := bind_eq_ok.mp hhex
  rw [build_of_hasOutput (hasOutput_of_build hb)] at hb
  obtain ⟨nonce, chainHexId, outputs, -, -, houtputs, tx, htx, rfl⟩ :=
    buildRawWithdrawUnbondedTransaction_eq_ok hb
  have hlength : s.outputs.length = tx.outputs.length := by
    rw [htx, ← ((mapM_eq_ok _ _ _).mp houtputs).length_eq]
    exact (List.length_map ..).symm
  obtain ⟨tx', htx', hemit⟩ := bind_eq_ok.mp hhex
  obtain rfl : tx' = tx := ok_unique htx'
    (txArgument_rawTxObject crates formats.withdrawUnbondedTx.lawful tx)
  obtain ⟨_, -, hemit⟩ := bind_eq_ok.mp hemit
  obtain ⟨witness, -, hemit⟩ := bind_eq_ok.mp hemit
  obtain ⟨txAux, haux, hemit⟩ := bind_eq_ok.mp hemit
  obtain rfl := Except.ok.inj hemit
  have haux := (chainThrow_eq_ok crates).mp haux
  rw [OutputCounts.features_test hmock] at haux
  obtain rfl := Except.ok.inj haux
  rw [hlength]
  exact ⟨_, witness, _, rfl, formats.txAux.lawful.read_encode _⟩

end ThalerNodelib.WithdrawUnbonded

namespace ThalerNodelib.Transfer

open Js Native Network KeyPairs ThalerNodelib.Types Runs Crates FunctionTypes NativeStaking
  NativeTransfer NativeFromCrates

variable {crates : Crates} {multiSig : MultiSigModule} {runtime : Runtime}
  {contents : crates.core.Builder → RawContents crates.types}
  {witnesses : crates.core.Builder → List (Option crates.types.TxInWitness)}

/-- The mock export declares the length of the list, cast to 16 bits. -/
theorem toHex_count (formats : FormatLaws crates.transactions)
    (houtputs : ∀ raw encrypt txAux, crates.core.toTxAux raw encrypt = .ok txAux →
      ∃ tx witness, tx.outputs = (contents raw).outputs ∧
        encrypt (.transferTransaction tx witness) = .ok txAux)
    (hmock : runtime.nodeEnv = some "test") {s : Builder}
    (hs : Coherent contents witnesses (nativeModule crates multiSig) s) {address : Option String}
    {v : Value}
    (h : outcome (machine (nativeModule crates multiSig) runtime) s (.query (.toHex address)) =
      .ok v) :
    ∃ hex inputs payload, v = .buffer hex ∧ crates.transactions.txAux.read hex =
      .ok (.enclaveTx (.transferTx inputs (UInt16.ofNat s.outputs.length) payload)) := by
  have hanswer : (toHex (nativeModule crates multiSig) runtime s address).map Value.buffer = .ok v := by
    cases hhex : toHex (nativeModule crates multiSig) runtime s address with
    | ok hex => simpa [outcome, machine, answer, hhex, Except.map] using h
    | error e => simp [outcome, machine, answer, hhex, Except.map] at h
  obtain ⟨hex, hhex, rfl⟩ := map_eq_ok.mp hanswer
  obtain ⟨incompleteHex, raw, encrypt, txAux, hextends, hencrypt, haux, rfl⟩ := hs.toHex hhex
  obtain ⟨tx, witness, htx, haux⟩ := houtputs raw encrypt txAux haux
  rw [OutputCounts.features_test hmock] at hencrypt
  obtain rfl := Except.ok.inj hencrypt
  obtain rfl := Except.ok.inj haux
  have hlength : s.outputs.length = tx.outputs.length := by
    rw [htx]
    exact hextends.marshalled.outputs.length_eq
  rw [hlength]
  exact ⟨_, tx.inputs, _, rfl, formats.txAux.lawful.read_encode _⟩

end ThalerNodelib.Transfer

namespace ThalerNodelib.OutputCounts

open Js Native Network KeyPairs ThalerNodelib.Types Runs Crates FunctionTypes NativeExport
  NativeFromCrates NativeStaking

variable {crates : Crates} {multiSig : MultiSigModule} {runtime : Runtime}
  {contents : crates.core.Builder → RawContents crates.types}
  {witnesses : crates.core.Builder → List (Option crates.types.TxInWitness)}

/-- Each mock export of a run declares the number of outputs that the run added
as long as they are at most 65535. -/
structure CountConditions (crates : Crates) (multiSig : MultiSigModule) (runtime : Runtime) :
    Prop where
  withdrawUnbonded : ∀ options s₀ log s address v,
    WithdrawUnbonded.WithdrawUnbondedTransactionBuilder.new options = .ok s₀ →
    Run (WithdrawUnbonded.machine (nativeModule crates multiSig) runtime) s₀ log s →
    outcome (WithdrawUnbonded.machine (nativeModule crates multiSig) runtime) s (.toHex address) =
      .ok v →
    ∃ hex noOfOutputs witness payload, v = .buffer hex ∧ crates.transactions.txAux.read hex =
        .ok (.enclaveTx (.withdrawUnbondedStakeTx noOfOutputs witness payload)) ∧
      (noOfOutputs.toNat = (accepted WithdrawUnbonded.Call.output log).length ↔
        (accepted WithdrawUnbonded.Call.output log).length ≤ 65535)
  transfer : ∀ options s₀ log s address v,
    Transfer.TransferTransactionBuilder.new options = .ok s₀ →
    Run (Transfer.machine (nativeModule crates multiSig) runtime) s₀ log s →
    outcome (Transfer.machine (nativeModule crates multiSig) runtime) s
      (.query (.toHex address)) = .ok v →
    ∃ hex inputs noOfOutputs payload, v = .buffer hex ∧ crates.transactions.txAux.read hex =
        .ok (.enclaveTx (.transferTx inputs noOfOutputs payload)) ∧
      (noOfOutputs.toNat = (accepted Transfer.Call.output log).length ↔
        (accepted Transfer.Call.output log).length ≤ 65535)

/-- The declared count is the number of outputs exactly when that is at most 65535. -/
theorem declared_count_iff (formats : FormatLaws crates.transactions)
    (laws : RawBuilderLaws crates.core crates.transactions contents witnesses)
    (houtputs : ∀ raw encrypt txAux, crates.core.toTxAux raw encrypt = .ok txAux →
      ∃ tx witness, tx.outputs = (contents raw).outputs ∧
        encrypt (.transferTransaction tx witness) = .ok txAux)
    (hmock : runtime.nodeEnv = some "test") : CountConditions crates multiSig runtime where
  withdrawUnbonded options s₀ log s address v hnew run h := by
    have hs := (WithdrawUnbonded.Replay.start hnew).run run
    obtain ⟨hex, witness, payload, hv, hread⟩ :=
      WithdrawUnbonded.toHex_count formats hmock hs.coherent h
    rw [← hs.outputs]
    exact ⟨hex, _, witness, payload, hv, hread, castLength_iff _⟩
  transfer options s₀ log s address v hnew run h := by
    have hs := (Transfer.History.start hnew).run run
    obtain ⟨hex, inputs, payload, hv, hread⟩ := Transfer.toHex_count formats houtputs hmock
      (Transfer.run_payload laws hnew run) h
    rw [← hs.outputs]
    exact ⟨hex, inputs, _, payload, hv, hread, castLength_iff _⟩

namespace Sample

/-- The environment in which the exports are encrypted by the mock ciphers. -/
def testRuntime : Runtime := { Native.Sample.runtime with nodeEnv := some "test" }

/-- A new builder after adding an output as many times. -/
def withdrawn (n : ℕ) :
    Log JsError WithdrawUnbonded.Builder (WithdrawUnbonded.Call Crates.Sample.module)
      WithdrawUnbonded.Value × WithdrawUnbonded.Builder :=
  execute (WithdrawUnbonded.machine Crates.Sample.module testRuntime) WithdrawUnbonded.Sample.start
    (List.replicate n (.addOutput SignedHex.Sample.output))

/-- The same, signed. -/
def signed (n : ℕ) : Log JsError WithdrawUnbonded.Builder
    (WithdrawUnbonded.Call Crates.Sample.module) WithdrawUnbonded.Value ×
      WithdrawUnbonded.Builder :=
  (entry (WithdrawUnbonded.machine Crates.Sample.module testRuntime) (withdrawn n).2
      (.sign (Crates.Sample.keyPair 7)) :: (withdrawn n).1,
    next (WithdrawUnbonded.machine Crates.Sample.module testRuntime) (withdrawn n).2
      (.sign (Crates.Sample.keyPair 7)))

theorem withdrawn_run (n : ℕ) : Run (WithdrawUnbonded.machine Crates.Sample.module testRuntime)
    WithdrawUnbonded.Sample.start (withdrawn n).1 (withdrawn n).2 := run_execute _ _ _

theorem withdrawn_replay (n : ℕ) : WithdrawUnbonded.Replay Crates.Sample.module
    WithdrawUnbonded.Sample.start (withdrawn n).1 (withdrawn n).2 :=
  (WithdrawUnbonded.Replay.start WithdrawUnbonded.Sample.new_options).run (withdrawn_run n)

theorem signed_run (n : ℕ) : Run (WithdrawUnbonded.machine Crates.Sample.module testRuntime)
    WithdrawUnbonded.Sample.start (signed n).1 (signed n).2 := .call _ (withdrawn_run n)

theorem signed_replay (n : ℕ) : WithdrawUnbonded.Replay Crates.Sample.module
    WithdrawUnbonded.Sample.start (signed n).1 (signed n).2 :=
  (WithdrawUnbonded.Replay.start WithdrawUnbonded.Sample.new_options).run (signed_run n)

theorem withdrawn_state {n : ℕ} (hn : n ≤ WithdrawUnbonded.maxOutputSize) :
    (withdrawn n).2 = { WithdrawUnbonded.Sample.start with
      outputs := List.replicate n SignedHex.Sample.output } :=
  WithdrawUnbonded.addOutputs_state WithdrawUnbonded.Sample.new_options (by decide +kernel)
    (by decide +kernel) hn

/-- The signature adds no output. -/
theorem signed_outputs {n : ℕ} (hn : n ≤ WithdrawUnbonded.maxOutputSize) :
    (accepted WithdrawUnbonded.Call.output (signed n).1).length = n := by
  have hsign : accepted WithdrawUnbonded.Call.output (signed n).1 =
      accepted WithdrawUnbonded.Call.output (withdrawn n).1 := accepted_none (fun _ => rfl) _
  rw [hsign, ← (withdrawn_replay n).outputs, withdrawn_state hn]
  exact List.length_replicate

theorem encodable {n : ℕ} (hn : n ≤ WithdrawUnbonded.maxOutputSize) :
    WithdrawUnbonded.Encodable (withdrawn n).2 := by
  have hnonce : parseAccountNonce WithdrawUnbonded.Sample.start.nonce.toString10 = .ok 0 := by
    decide +kernel
  rw [withdrawn_state hn]
  exact ⟨⟨0, hnonce⟩,
    (NetworkIdentification.identified_iff _).mpr ⟨0x2A, rfl, Or.inl ⟨rfl, rfl⟩⟩⟩

/-- With at least one output the signed builder is exported. -/
theorem signed_toHex {n : ℕ} (hpos : 0 < n) (hn : n ≤ WithdrawUnbonded.maxOutputSize) :
    ∃ v, outcome (WithdrawUnbonded.machine Crates.Sample.module testRuntime) (signed n).2
      (.toHex none) = .ok v := by
  refine WithdrawUnbonded.sign_toHex Crates.Sample.export_laws (withdrawn_replay n) ?_ ?_
    (encodable hn) rfl (by decide +kernel)
  · exact congrArg _ (withdrawn_state hn)
  · rw [withdrawn_state hn]
    simpa [WithdrawUnbonded.WithdrawUnbondedTransactionBuilder.hasOutput] using hpos

/-- One input, one output and a signature. -/
def transfer : Log JsError Transfer.Builder (Transfer.Call Crates.Sample.module) Transfer.Value ×
    Transfer.Builder :=
  execute (Transfer.machine Crates.Sample.module testRuntime) Transfer.Sample.start
    [.addInput (Transfer.Sample.input 7 1 1), .addOutput Transfer.Sample.output,
      .signInput (.ofNat 0) (Crates.Sample.keyPair 7)]

theorem transfer_toHex : (outcome (Transfer.machine Crates.Sample.module testRuntime) transfer.2
    (.query (.toHex none))).toOption.isSome = true := by decide +kernel

theorem transfer_outputs : accepted Transfer.Call.output transfer.1 = [Transfer.Sample.output] := by
  decide +kernel

end Sample

/-- One output is declared as one by either builder. -/
theorem declared_count_of_one :
    (∃ hex noOfOutputs witness payload,
      outcome (WithdrawUnbonded.machine Crates.Sample.module Sample.testRuntime)
        (Sample.signed 1).2 (.toHex none) = .ok (.buffer hex) ∧
      Crates.Sample.txAux.read hex =
        .ok (.enclaveTx (.withdrawUnbondedStakeTx noOfOutputs witness payload)) ∧
      noOfOutputs.toNat = 1) ∧
    ∃ hex inputs noOfOutputs payload,
      outcome (Transfer.machine Crates.Sample.module Sample.testRuntime) Sample.transfer.2
        (.query (.toHex none)) = .ok (.buffer hex) ∧
      Crates.Sample.txAux.read hex = .ok (.enclaveTx (.transferTx inputs noOfOutputs payload)) ∧
      noOfOutputs.toNat = 1 := by
  have hcounts : CountConditions Crates.Sample.crates Native.Sample.module.multiSig
      Sample.testRuntime := declared_count_iff Crates.Sample.layout_laws.toFormatLaws
    Crates.Sample.raw_builder_laws Crates.Sample.toTxAux_outputs rfl
  constructor
  · obtain ⟨v, hv⟩ := Sample.signed_toHex Nat.one_pos (by decide)
    obtain ⟨hex, noOfOutputs, witness, payload, rfl, hread, hcount⟩ :=
      hcounts.withdrawUnbonded _ _ _ _ _ _ WithdrawUnbonded.Sample.new_options (Sample.signed_run 1) hv
    have hone := Sample.signed_outputs (n := 1) (by decide)
    exact ⟨hex, noOfOutputs, witness, payload, hv, hread,
      (hcount.mpr (hone.le.trans (by decide))).trans hone⟩
  · obtain ⟨hex, inputs, noOfOutputs, payload, hv, hread, hcount⟩ :=
      hcounts.transfer _ _ _ _ _ _ Transfer.Sample.new_options
        (run_execute _ _ _ : Run _ _ Sample.transfer.1 Sample.transfer.2)
        (eq_ok_of_isSome Sample.transfer_toHex)
    have hone := congrArg List.length Sample.transfer_outputs
    refine ⟨hex, inputs, noOfOutputs, payload, ?_, hread,
      (hcount.mpr (hone.le.trans (by decide))).trans hone⟩
    rw [← hv]
    exact eq_ok_of_isSome Sample.transfer_toHex

/-- A withdrawal takes 65536 outputs and is exported with none declared. -/
theorem declared_count_wraps :
    (accepted WithdrawUnbonded.Call.output (Sample.signed 65536).1).length = 65536 ∧
    ∃ hex witness payload,
      outcome (WithdrawUnbonded.machine Crates.Sample.module Sample.testRuntime)
        (Sample.signed 65536).2 (.toHex none) = .ok (.buffer hex) ∧
      Crates.Sample.txAux.read hex =
        .ok (.enclaveTx (.withdrawUnbondedStakeTx 0 witness payload)) := by
  have hmax : 65536 ≤ WithdrawUnbonded.maxOutputSize := le_refl _
  have hlength := Sample.signed_outputs hmax
  obtain ⟨v, hv⟩ := Sample.signed_toHex (by decide) hmax
  have hs := Sample.signed_replay 65536
  obtain ⟨hex, witness, payload, rfl, hread⟩ := WithdrawUnbonded.toHex_count
    Crates.Sample.layout_laws.toFormatLaws rfl hs.coherent hv
  rw [hs.outputs, hlength] at hread
  exact ⟨hlength, hex, witness, payload, hv, hread⟩

end ThalerNodelib.OutputCounts
