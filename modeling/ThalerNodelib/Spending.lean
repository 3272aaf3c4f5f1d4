import ThalerNodelib.Addresses
import ThalerNodelib.Progress

/-!
What one builder pays is what a later builder spends: the outputs of a withdrawal
or a transfer, taken as the inputs of a transfer under the id that was shown for
them, are accepted, signed by the owners of their addresses, and point to exactly
the outputs of the transaction that was exported.
-/
namespace ThalerNodelib.Transfer

open Js Native ThalerNodelib.Types Runs Crates NativeFromCrates

variable {native : NativeModule} {runtime : Runtime}

theorem addInput_next {s : Builder} {input : Input} (h : inputGuard native s input = .ok ()) :
    next (machine native runtime) s (.addInput input) =
      { s.clearIncompleteSigningHex with inputs := s.inputs ++ [input] } :=
  next_ok (v := .this) (by simp [machine, addInput_run, h])

/-- Accepted inputs are taken one after the other, on the network of the builder. -/
theorem execute_addInputs {s : Builder} {inputs : List Input}
    (h : ∀ input ∈ inputs, owInput native input = .ok none ∧
      s.isTransferAddressInNetwork native input.prevOutput.address = .ok true) :
    (∀ e ∈ (execute (machine native runtime) s (inputs.map .addInput)).1, e.succeeded = true) ∧
    (execute (machine native runtime) s (inputs.map .addInput)).2.network = s.network ∧
    (execute (machine native runtime) s (inputs.map .addInput)).2.inputs = s.inputs ++ inputs := by
  induction inputs generalizing s with
  | nil => exact ⟨fun e he => (List.not_mem_nil he).elim, rfl, (List.append_nil _).symm⟩
  | cons input rest ih =>
    have haccepted := h input (List.mem_cons_self ..)
    have hnext : next (machine native runtime) s (.addInput input) = _ :=
      addInput_next ((guard_eq_ok _ _ _ _).mpr haccepted)
    have hrest : ∀ other ∈ rest, owInput native other = .ok none ∧
        (next (machine native runtime) s (.addInput input)).isTransferAddressInNetwork native
          other.prevOutput.address = .ok true := by
      intro other hother
      rw [hnext]
      exact h other (List.mem_cons_of_mem _ hother)
    obtain ⟨hsucceeded, hnetwork, hinputs⟩ := ih hrest
    rw [List.map_cons, execute_log_cons, execute_cons]
    refine ⟨fun e he => ?_, ?_, ?_⟩
    · rcases List.mem_append.mp he with hold | hnew
      · exact hsucceeded e hold
      · obtain rfl := List.mem_singleton.mp hnew
        exact (Entry.succeeded_iff _).mpr ((addInput_isOk_iff s input).mpr haccepted)
    · rw [hnetwork, hnext]
      rfl
    · rw [hinputs, hnext, List.append_assoc]
      rfl

/-- All the transactions that extend what would be built now hold the same. -/
theorem Extends.contents_unique {crates : Crates} {multiSig : MultiSigModule}
    {contents : crates.core.Builder → RawContents crates.types}
    {witnesses : crates.core.Builder → List (Option crates.types.TxInWitness)}
    (laws : RawBuilderLaws crates.core crates.transactions contents witnesses) {s : Builder}
    {incompleteHex incompleteHex' : Buffer} {raw raw' : crates.core.Builder}
    (h : Extends contents witnesses (nativeModule crates multiSig) s incompleteHex raw)
    (h' : Extends contents witnesses (nativeModule crates multiSig) s incompleteHex' raw') :
    contents raw = contents raw' := by
  obtain ⟨unsigned, hbuilt, hsame⟩ := h.built
  obtain ⟨unsigned', hbuilt', hsame'⟩ := h'.built
  have hfee := h.marshalled.fee
  have hfee' := h'.marshalled.fee
  rw [← hsame] at hfee
  rw [← hsame'] at hfee'
  have hdecoded := argument_toIncomplete laws hfee
  rw [ok_unique hbuilt hbuilt', argument_toIncomplete laws hfee'] at hdecoded
  rw [← hsame, ← hsame', Except.ok.inj hdecoded]

end ThalerNodelib.Transfer

namespace ThalerNodelib.Spending

open Js Native Network KeyPairs ThalerNodelib.Types Runs Crates FunctionTypes NativeTransfer
  NativeFromCrates NetworkIdentification Marshalling

variable {crates : Crates} {multiSig : MultiSigModule} {runtime : Runtime}
  {coinValue : crates.types.Coin → ℕ}
  {contents : crates.core.Builder → RawContents crates.types}
  {witnesses : crates.core.Builder → List (Option crates.types.TxInWitness)}

/-- The input of one signer that spends an output by the shown id and its index. -/
def spendingInput (txId : String) (i : ℕ) (output : Output) : Input where
  prevTxId := txId
  prevIndex := .ofNat i
  prevOutput := output
  addressParams := Transfer.singleSignAddress

def spendingInputs (txId : String) (outputs : List Output) : List Input :=
  outputs.mapIdx (spendingInput txId)

/-- The accepted outputs of a builder and what the native module made of them, few
enough for their indexes to fit. -/
structure Issued (crates : Crates) (multiSig : MultiSigModule) (network : NetworkConfig)
    (outputs : List Output) (txOuts : List (TxOut crates.types)) : Prop where
  length : outputs.length ≤ 65536
  accepted : ∀ output ∈ outputs, owOutput (nativeModule crates multiSig) output = .ok none ∧
    isTransferAddressValid crates output.address network.name = .ok true
  parsed : List.Forall₂ (ParsesTo crates network) outputs txOuts

/-- The shown text of an id is one. -/
theorem owTxId_hexEncode (id : H256) : owTxId (hexEncode id.val) = none := by
  have hchars : (hexEncode id.val).toList = hexChars false id.val := String.toList_ofList
  have hlength := id.property
  rw [owTxId, check_eq_none, hchars, hexChars_length, hlength]
  simp only [Nat.reduceMul, beq_self_eq_true, Bool.true_and, List.all_eq_true]
  exact fun c hc => isHexDigit_of_mem_hexChars hc

theorem txidFromStr_hexEncode (id : H256) : txidFromStr (hexEncode id.val) = .ok id := by
  obtain ⟨id', hid⟩ := txidFromStr_ok (owTxId_hexEncode id)
  have hbytes := txidFromStr_bytes hid
  rw [NativeStaking.bufferFromHex_hexEncode] at hbytes
  rw [hid, Subtype.ext hbytes]

/-- An issued output is accepted as the output that an input spends. -/
theorem owInput_spendingInput {id : H256} {i : ℕ} {output : Output}
    (h : owOutput (nativeModule crates multiSig) output = .ok none) :
    owInput (nativeModule crates multiSig) (spendingInput (hexEncode id.val) i output) =
      .ok none := by
  refine bind_eq_ok.mpr ⟨none, h, congrArg Except.ok ?_⟩
  have hindex : ((JsNumber.ofNat i).isInteger && (JsNumber.ofNat 0).le (.ofNat i)) = true := by
    rw [JsNumber.isInteger_ofNat, JsNumber.ofNat_le_ofNat]
    simp
  have hparams : owInputAddressParams Transfer.singleSignAddress = none := by decide +kernel
  simp only [spendingInput, owTxId_hexEncode, hindex, check, if_true, hparams]
  rfl

/-- What the native module reads of an input that spends an issued output: the id
and the index of it, and the output that was written there. -/
theorem prevOutput_of_parseInput {id : H256} {i : ℕ} (hi : i ≤ 65535) {output : Output}
    {txOut : TxOut crates.types} {network : NetworkEnum}
    {parsed : RawTransactionOptionsInput crates}
    (houtput : parseOutput crates (parseOutputForNative output) network = .ok txOut)
    (h : parseInput crates (parseInputForNative (spendingInput (hexEncode id.val) i output))
      network = .ok parsed) :
    parsed.prevOutput.1.id = id ∧ parsed.prevOutput.1.index.toNat = i ∧
      parsed.prevOutput.2 = txOut := by
  obtain ⟨id', hid, h⟩ := bind_eq_ok.mp h
  obtain ⟨txOut', htxOut, h⟩ := bind_eq_ok.mp h
  rw [← Except.ok.inj h]
  exact ⟨(ok_unique (txidFromStr_hexEncode id) hid).symm, (castU16_eq_iff i).mpr hi,
    ok_unique htxOut houtput⟩

/-- A raw builder made of the issued outputs holds the outputs that were written. -/
theorem Issued.held {network : NetworkConfig} {outputs : List Output}
    {txOuts : List (TxOut crates.types)} (h : Issued crates multiSig network outputs txOuts)
    {id : H256} {t : Transfer.Builder}
    (hinputs : t.inputs = spendingInputs (hexEncode id.val) outputs)
    (hchain : t.network.chainHexId = network.chainHexId) {raw : RawContents crates.types}
    (hraw : Transfer.Marshalled crates t raw) :
    raw.inputs.map (fun input => (input.1.1.id, input.1.1.index.toNat, input.1.2)) =
      txOuts.mapIdx fun i txOut => (id, i, txOut) := by
  have hparsed := hraw.inputs
  rw [hinputs, spendingInputs] at hparsed
  obtain ⟨hlength, hparsed⟩ := List.forall₂_iff_get.mp hparsed
  obtain ⟨hlength', houtputs⟩ := List.forall₂_iff_get.mp h.parsed
  rw [List.length_mapIdx] at hlength
  apply List.ext_getElem
  · rw [List.length_map, List.length_mapIdx]
    omega
  · intro i hi hi'
    rw [List.length_map] at hi
    rw [List.length_mapIdx] at hi'
    have hioutputs : i < outputs.length := by omega
    have hlimit := h.length
    obtain ⟨parsed, hparse, hprev, -⟩ := hparsed i (by rwa [List.length_mapIdx]) hi
    obtain ⟨chainHexId, hvec, hwritten⟩ := houtputs i hioutputs hi'
    have hsame := chainHexIdFromVec_eq_ok.mp hvec
    rw [← hchain, hraw.chainHexId] at hsame
    obtain rfl := List.head_eq_of_cons_eq hsame
    simp only [List.get_eq_getElem, List.getElem_mapIdx] at hparse hprev hwritten
    obtain ⟨hid, hindex, htxOut⟩ := prevOutput_of_parseInput (by omega) hwritten hparse
    rw [List.getElem_map, List.getElem_mapIdx, ← hprev, hid, hindex, htxOut]

section Statements
variable (crates multiSig runtime contents)

/-- The outputs were taken as inputs and signed by their owners, every call
succeeded, and what the builder holds and exports spends exactly them. -/
structure Spent (id : H256) (outputs : List Output) (txOuts : List (TxOut crates.types))
    (taken signed :
      Log JsError Transfer.Builder (Transfer.Call (nativeModule crates multiSig)) Transfer.Value ×
        Transfer.Builder) : Prop where
  succeeded : ∀ e ∈ taken.1, e.succeeded = true
  inputs : taken.2.inputs = spendingInputs (hexEncode id.val) outputs
  completes : Transfer.Completes (nativeModule crates multiSig) runtime taken.2 signed.1 signed.2
  held : ∀ incompleteHex raw, signed.2.incompleteHex = some incompleteHex →
    incompleteBuilderLinearFeeArgument crates ⟨some incompleteHex, signed.2.nativeFeeConfig⟩ =
      .ok raw →
    (contents raw).inputs.map (fun input => (input.1.1.id, input.1.1.index.toNat, input.1.2)) =
      txOuts.mapIdx fun i txOut => (id, i, txOut)
  exported : ∀ address hex,
    outcome (Transfer.machine (nativeModule crates multiSig) runtime) signed.2
      (.query (.toHex address)) = .ok (.buffer hex) →
    ∃ tx given encrypt txAux,
      tx.inputs.map (fun pointer => (pointer.id, pointer.index.toNat)) =
        (List.range txOuts.length).map (fun i => (id, i)) ∧
      obfuscation crates (address.getD defaultTendermintAddress)
        (getRustFeaturesFromEnv runtime.nodeEnv) = .ok encrypt ∧
      encrypt (.transferTransaction tx given) = .ok txAux ∧
      hex = crates.transactions.txAux.encode txAux

/-- Every transfer builder without inputs, in any state and on the same chain, can
spend the outputs when it is signed, in any order, by key pairs whose transfer
addresses they were paid to. -/
def Spendable (id : H256) (network : NetworkConfig) (outputs : List Output)
    (txOuts : List (TxOut crates.types)) : Prop :=
  ∀ options t₀ t log owner order,
    Transfer.TransferTransactionBuilder.new options = .ok t₀ →
    Run (Transfer.machine (nativeModule crates multiSig) runtime) t₀ log t → t.inputs = [] →
    t.network.name = network.name → t.network.chainHexId = network.chainHexId →
    (∃ fee, parseLinearFeeConfig crates t.nativeFeeConfig = .ok fee) → outputs ≠ [] →
    (∀ i output, outputs[i]? = some output → (owner i).hasPrivateKey = true ∧
      Transfer.transfer (nativeModule crates multiSig) (owner i) t.network = .ok output.address) →
    (∀ i, i ∈ order ↔ i < outputs.length) →
    Spent crates multiSig runtime contents id outputs txOuts
      (execute (Transfer.machine (nativeModule crates multiSig) runtime) t
        ((spendingInputs (hexEncode id.val) outputs).map .addInput))
      (execute (Transfer.machine (nativeModule crates multiSig) runtime)
        (execute (Transfer.machine (nativeModule crates multiSig) runtime) t
          ((spendingInputs (hexEncode id.val) outputs).map .addInput)).2
        (Transfer.signings owner order))

end Statements

section Laws
variable (laws : RawBuilderLaws crates.core crates.transactions contents witnesses)
  (hfinishes : Transfer.Finishes crates contents witnesses)
  (hcompleted : ∀ raw, crates.core.isCompleted raw = (witnesses raw).all Option.isSome)
  (hadds : ∀ raw i witness, i < (witnesses raw).length →
    ∃ extended, crates.core.addWitness raw i witness = .ok extended)
  (signing : SigningLaws crates.keys) (marshal : MarshalLaws crates coinValue)

include hfinishes in
/-- What a builder exports spends what its raw builder holds. -/
theorem exported_inputs {s : Transfer.Builder}
    (hs : Transfer.Coherent contents witnesses (nativeModule crates multiSig) s)
    {address : Option String} {hex : Buffer}
    (h : outcome (Transfer.machine (nativeModule crates multiSig) runtime) s
      (.query (.toHex address)) = .ok (.buffer hex)) :
    ∃ incompleteHex raw tx given encrypt txAux,
      Transfer.Extends contents witnesses (nativeModule crates multiSig) s incompleteHex raw ∧
      tx.inputs = (contents raw).inputs.map (fun input => input.1.1) ∧
      tx.outputs = (contents raw).outputs ∧
      crates.transactions.tx.id tx = crates.core.txId raw ∧
      obfuscation crates (address.getD defaultTendermintAddress)
        (getRustFeaturesFromEnv runtime.nodeEnv) = .ok encrypt ∧
      encrypt (.transferTransaction tx given) = .ok txAux ∧
      hex = crates.transactions.txAux.encode txAux := by
  rw [Transfer.query_outcome] at h
  obtain ⟨bytes, hexport, hvalue⟩ := map_eq_ok.mp h
  obtain rfl := Transfer.Value.buffer.inj hvalue
  obtain ⟨incompleteHex, raw, encrypt, txAux, hextends, hencrypt, haux, hhex⟩ := hs.toHex hexport
  obtain ⟨tx, given, hinputs, houtputs, -, hid, -, hencrypted⟩ := hfinishes raw encrypt txAux haux
  exact ⟨incompleteHex, raw, tx, given, encrypt, txAux, hextends, hinputs, houtputs, hid, hencrypt,
    hencrypted, hhex⟩

include laws hfinishes hcompleted hadds signing marshal in
/-- Issued outputs can be spent. -/
theorem Issued.spendable {network : NetworkConfig} (hmatching : MatchingChainId network)
    {outputs : List Output} {txOuts : List (TxOut crates.types)}
    (h : Issued crates multiSig network outputs txOuts) (id : H256) :
    Spendable crates multiSig runtime contents id network outputs txOuts := by
  intro options t₀ t log owner order hnew run hempty hname hchain hfee houtputs howner horder
  have haccepted : ∀ input ∈ spendingInputs (hexEncode id.val) outputs,
      owInput (nativeModule crates multiSig) input = .ok none ∧
        t.isTransferAddressInNetwork (nativeModule crates multiSig) input.prevOutput.address =
          .ok true := by
    intro input hinput
    obtain ⟨i, hi, rfl⟩ := List.mem_mapIdx.mp hinput
    obtain ⟨houtput, hvalid⟩ := h.accepted outputs[i] (List.getElem_mem hi)
    rw [← hname] at hvalid
    exact ⟨owInput_spendingInput houtput, hvalid⟩
  obtain ⟨hsucceeded, hnetwork, hinputs⟩ :=
    @Transfer.execute_addInputs (nativeModule crates multiSig) runtime _ _ haccepted
  have hrun := run.append_execute
    ((spendingInputs (hexEncode id.val) outputs).map Transfer.Call.addInput)
  generalize execute (Transfer.machine (nativeModule crates multiSig) runtime) t
    ((spendingInputs (hexEncode id.val) outputs).map .addInput) = taken
    at hsucceeded hnetwork hinputs hrun ⊢
  rw [hempty, List.nil_append] at hinputs
  have hlength : taken.2.inputs.length = outputs.length := by
    rw [hinputs, spendingInputs, List.length_mapIdx]
  have hlimit := h.length
  have hpositive := List.length_pos_iff.mpr houtputs
  have hsignable : Transfer.Signable crates multiSig taken.2 owner := by
    refine ⟨?_, ?_, ?_, by omega, fun i input hi => ?_⟩
    · rw [hnetwork]
      unfold MatchingChainId
      rw [hname, hchain]
      exact hmatching
    · have hconfig : taken.2.nativeFeeConfig = t.nativeFeeConfig := by
        simp only [Transfer.TransferTransactionBuilder.nativeFeeConfig,
          Transfer.TransferTransactionBuilder.feeConfig, hnetwork]
      rwa [hconfig]
    · rw [Transfer.TransferTransactionBuilder.hasInput, bne_iff_ne]
      omega
    · rw [hinputs, spendingInputs, List.getElem?_mapIdx, Option.map_eq_some_iff] at hi
      obtain ⟨output, houtput, rfl⟩ := hi
      obtain ⟨hprivate, haddress⟩ := howner i output houtput
      rw [hnetwork]
      exact ⟨rfl, hprivate, haddress⟩
  have hordered : ∀ i, i ∈ order ↔ i < taken.2.inputs.length := by
    intro i
    rw [hlength]
    exact horder i
  have hcompletes := hsignable.completes laws hcompleted hadds signing marshal hnew hrun hordered
  have hrun' := hrun.append_execute (Transfer.signings owner order)
  generalize execute (Transfer.machine (nativeModule crates multiSig) runtime) taken.2
    (Transfer.signings owner order) = signed at hcompletes hrun' ⊢
  have hcoherent := Transfer.run_payload laws hnew hrun'
  obtain ⟨stored, hunchanged⟩ := hcompletes.unchanged
  have hheld : ∀ {raw : RawContents crates.types}, Transfer.Marshalled crates signed.2 raw →
      raw.inputs.map (fun input => (input.1.1.id, input.1.1.index.toNat, input.1.2)) =
        txOuts.mapIdx fun i txOut => (id, i, txOut) := by
    intro raw hraw
    refine h.held ?_ ?_ hraw
    · rw [hunchanged]
      exact hinputs
    · rw [hunchanged, hnetwork, hchain]
  refine ⟨hsucceeded, hinputs, hcompletes, ?_, ?_⟩
  · intro incompleteHex raw hstored hdecoded
    obtain ⟨raw', hextends⟩ := hcoherent incompleteHex hstored
    obtain rfl := ok_unique hextends.decoded hdecoded
    exact hheld hextends.marshalled
  · intro address hex hexport
    obtain ⟨_, raw, tx, given, encrypt, txAux, hextends, hspent, -, -, hencrypt, hencrypted, hhex⟩ :=
      exported_inputs hfinishes hcoherent hexport
    refine ⟨tx, given, encrypt, txAux, ?_, hencrypt, hencrypted, hhex⟩
    have hpointers := congrArg (List.map fun input => (input.1, input.2.1)) (hheld hextends.marshalled)
    rw [List.map_map] at hpointers
    rw [hspent, List.map_map]
    refine Eq.trans hpointers (List.ext_getElem ?_ fun i hi hi' => ?_)
    · simp
    · simp

end Laws

section Statements
variable (crates multiSig runtime)

/-- Whatever the builder exports is the obfuscation of the transaction. -/
def ExportsWithdrawal (s : WithdrawUnbonded.Builder) (tx : WithdrawUnbondedTx crates.types) :
    Prop :=
  ∀ address hex,
    outcome (WithdrawUnbonded.machine (nativeModule crates multiSig) runtime) s (.toHex address) =
      .ok (.buffer hex) →
    ∃ witness txAux,
      NativeStaking.signedTransactionToTxAux crates (.withdrawUnbondedStakeTransaction tx witness)
        (address.getD defaultTendermintAddress) (getRustFeaturesFromEnv runtime.nodeEnv) =
          .ok txAux ∧
      hex = crates.transactions.txAux.encode txAux

/-- Whatever the builder exports is the obfuscation of a transaction with the id and
the outputs. -/
def ExportsTransfer (s : Transfer.Builder) (id : H256) (txOuts : List (TxOut crates.types)) :
    Prop :=
  ∀ address hex,
    outcome (Transfer.machine (nativeModule crates multiSig) runtime) s
      (.query (.toHex address)) = .ok (.buffer hex) →
    ∃ tx given encrypt txAux, crates.transactions.tx.id tx = id ∧ tx.outputs = txOuts ∧
      obfuscation crates (address.getD defaultTendermintAddress)
        (getRustFeaturesFromEnv runtime.nodeEnv) = .ok encrypt ∧
      encrypt (.transferTransaction tx given) = .ok txAux ∧
      hex = crates.transactions.txAux.encode txAux

/-- What is paid under an id that a builder shows is spent under that id. -/
structure OutputsSpendable (contents : crates.core.Builder → RawContents crates.types) :
    Prop where
  withdrawal : ∀ options s₀ s log text,
    WithdrawUnbonded.WithdrawUnbondedTransactionBuilder.new options = .ok s₀ →
    Run (WithdrawUnbonded.machine (nativeModule crates multiSig) runtime) s₀ log s →
    MatchingChainId s.network →
    outcome (WithdrawUnbonded.machine (nativeModule crates multiSig) runtime) s .txId =
      .ok (.text text) →
    ∃ tx, text = hexEncode (crates.transactions.withdrawUnbondedTx.id tx).val ∧
      ExportsWithdrawal crates multiSig runtime s tx ∧
      Spendable crates multiSig runtime contents (crates.transactions.withdrawUnbondedTx.id tx)
        s.network s.outputs tx.outputs
  transfer : ∀ options s₀ s log text,
    Transfer.TransferTransactionBuilder.new options = .ok s₀ →
    Run (Transfer.machine (nativeModule crates multiSig) runtime) s₀ log s →
    MatchingChainId s.network → s.outputs.length ≤ 65536 →
    outcome (Transfer.machine (nativeModule crates multiSig) runtime) s (.query .txId) =
      .ok (.text text) →
    ∃ id txOuts, text = hexEncode id.val ∧ ExportsTransfer crates multiSig runtime s id txOuts ∧
      Spendable crates multiSig runtime contents id s.network s.outputs txOuts

end Statements

/-- A withdrawal whose id is shown issues its outputs in the transaction of the id,
which is the one that it exports. -/
theorem issued_of_withdrawal (hlawful : crates.transactions.withdrawUnbondedTx.codec.Lawful)
    {options : WithdrawUnbonded.WithdrawUnbondedTransactionBuilderOptions}
    {s₀ s : WithdrawUnbonded.Builder}
    {log : Log JsError WithdrawUnbonded.Builder
      (WithdrawUnbonded.Call (nativeModule crates multiSig)) WithdrawUnbonded.Value}
    (hnew : WithdrawUnbonded.WithdrawUnbondedTransactionBuilder.new options = .ok s₀)
    (run : Run (WithdrawUnbonded.machine (nativeModule crates multiSig) runtime) s₀ log s)
    {text : String}
    (h : outcome (WithdrawUnbonded.machine (nativeModule crates multiSig) runtime) s .txId =
      .ok (.text text)) :
    ∃ tx, text = hexEncode (crates.transactions.withdrawUnbondedTx.id tx).val ∧
      ExportsWithdrawal crates multiSig runtime s tx ∧
      Issued crates multiSig s.network s.outputs tx.outputs := by
  have hs := (WithdrawUnbonded.Replay.start hnew).run run
  cases hbuild : (WithdrawUnbonded.cell (nativeModule crates multiSig)).build s with
  | error e =>
    simp [outcome, WithdrawUnbonded.machine, WithdrawUnbonded.txId_run hs.coherent, hbuild] at h
  | ok rawTx =>
    have hraw := hbuild
    rw [WithdrawUnbonded.build_of_hasOutput (WithdrawUnbonded.hasOutput_of_build hbuild)] at hraw
    obtain ⟨tx, rfl, -, hchain, hparsed, -⟩ :=
      WithdrawUnbonded.buildRawWithdrawUnbondedTransaction_says hraw
    simp only [outcome, WithdrawUnbonded.machine, EStateM.run_bind,
      WithdrawUnbonded.txId_run hs.coherent, hbuild] at h
    refine ⟨tx, (WithdrawUnbonded.Value.text.inj (Except.ok.inj h)).symm, ?_, hs.outputs_length,
      ?_, ?_⟩
    · intro address hex hexport
      obtain ⟨rawTx', bytes, obfuscated, hbuild', hbytes, hexport, hvalue⟩ :=
        WithdrawUnbonded.toHex_emits hs.coherent hexport
      obtain rfl := ok_unique hbuild hbuild'
      obtain rfl := WithdrawUnbonded.Value.buffer.inj hvalue
      obtain ⟨tx', htx, hexport⟩ := bind_eq_ok.mp hexport
      obtain rfl := ok_unique (NativeStaking.txArgument_rawTxObject crates hlawful tx) htx
      obtain ⟨given, -, hexport⟩ := bind_eq_ok.mp hexport
      obtain ⟨witness, -, hexport⟩ := bind_eq_ok.mp hexport
      obtain ⟨txAux, haux, hexport⟩ := bind_eq_ok.mp hexport
      exact ⟨witness, txAux, (chainThrow_eq_ok crates).mp haux, (Except.ok.inj hexport).symm⟩
    · intro output houtput
      obtain ⟨haccepted, hvalid⟩ := hs.outputs_accepted output houtput
      obtain ⟨failure, haddress, hnone⟩ := bind_eq_ok.mp haccepted
      have hnone := Except.ok.inj hnone
      simp only [Option.orElse_eq_orElse, Option.orElse_eq_or, Option.or_eq_none_iff] at hnone
      refine ⟨bind_eq_ok.mpr ⟨failure, haddress, congrArg Except.ok ?_⟩, hvalid⟩
      exact (Option.orElse_eq_none _ _).mpr ⟨hnone.1, hnone.2.1⟩
    · refine (List.forall₂_map_left_iff.mp hparsed).imp fun output txOut houtput => ?_
      exact ⟨_, chainHexIdFromVec_eq_ok.mpr hchain, houtput⟩

/-- A transfer whose id is shown issues its outputs in the transaction of the id,
which is the one that it exports. -/
theorem issued_of_transfer
    (laws : RawBuilderLaws crates.core crates.transactions contents witnesses)
    (hfinishes : Transfer.Finishes crates contents witnesses)
    {options : Option Transfer.TransferTransactionBuilderOptions} {s₀ s : Transfer.Builder}
    {log : Log JsError Transfer.Builder (Transfer.Call (nativeModule crates multiSig))
      Transfer.Value}
    (hnew : Transfer.TransferTransactionBuilder.new options = .ok s₀)
    (run : Run (Transfer.machine (nativeModule crates multiSig) runtime) s₀ log s)
    (hlength : s.outputs.length ≤ 65536) {text : String}
    (h : outcome (Transfer.machine (nativeModule crates multiSig) runtime) s (.query .txId) =
      .ok (.text text)) :
    ∃ id txOuts, text = hexEncode id.val ∧ ExportsTransfer crates multiSig runtime s id txOuts ∧
      Issued crates multiSig s.network s.outputs txOuts := by
  have hs := (Transfer.History.start hnew).run run
  rw [Transfer.query_outcome] at h
  obtain ⟨shown, hshown, hvalue⟩ := map_eq_ok.mp h
  obtain rfl := Transfer.Value.text.inj hvalue
  have hinput : s.hasInput = true := by
    obtain ⟨_, hverify, -⟩ := bind_eq_ok.mp hshown
    exact s.verifyHasInput_eq_ok.mp hverify
  obtain ⟨incompleteHex, hbuild, -⟩ := bind_eq_ok.mp ((s.txId_eq _ hinput).symm.trans hshown)
  obtain ⟨raw, rfl, hdecodes, -⟩ := Transfer.built_decodes laws hbuild
  have hextends : Transfer.Extends contents witnesses (nativeModule crates multiSig) s _ raw :=
    ⟨hdecodes, hinput, raw, hbuild, rfl⟩
  obtain rfl := ok_unique (hextends.txId laws) hshown
  refine ⟨crates.core.txId raw, (contents raw).outputs, rfl, ?_, hlength, hs.outputs_accepted, ?_⟩
  · intro address hex hexport
    obtain ⟨_, raw', tx, given, encrypt, txAux, hextends', -, houtputs, hid, hexported⟩ :=
      exported_inputs hfinishes (Transfer.run_payload laws hnew run) hexport
    have hcontents := hextends.contents_unique laws hextends'
    refine ⟨tx, given, encrypt, txAux, ?_, ?_, hexported⟩
    · rw [hid, laws.txId_contents _ _ hcontents]
    · rw [houtputs, hcontents]
  · refine hdecodes.marshalled.outputs.imp fun output txOut houtput => ?_
    exact ⟨_, chainHexIdFromVec_eq_ok.mpr hdecodes.marshalled.chainHexId, houtput⟩

/-- The outputs of withdrawals and transfers can be spent by the owners of their
addresses, and what is exported then spends exactly them. -/
theorem outputs_spendable
    (laws : RawBuilderLaws crates.core crates.transactions contents witnesses)
    (hfinishes : Transfer.Finishes crates contents witnesses)
    (hcompleted : ∀ raw, crates.core.isCompleted raw = (witnesses raw).all Option.isSome)
    (hadds : ∀ raw i witness, i < (witnesses raw).length →
      ∃ extended, crates.core.addWitness raw i witness = .ok extended)
    (signing : SigningLaws crates.keys) (marshal : MarshalLaws crates coinValue)
    (hlawful : crates.transactions.withdrawUnbondedTx.codec.Lawful) :
    OutputsSpendable crates multiSig runtime contents where
  withdrawal options s₀ s log text hnew run hmatching h := by
    obtain ⟨tx, htext, hexports, hissued⟩ := issued_of_withdrawal hlawful hnew run h
    exact ⟨tx, htext, hexports, hissued.spendable laws hfinishes hcompleted hadds signing marshal
      hmatching _⟩
  transfer options s₀ s log text hnew run hmatching hlength h := by
    obtain ⟨id, txOuts, htext, hexports, hissued⟩ :=
      issued_of_transfer laws hfinishes hnew run hlength h
    exact ⟨id, txOuts, htext, hexports, hissued.spendable laws hfinishes hcompleted hadds signing
      marshal hmatching id⟩

namespace Sample

def output (b : UInt8) : Output :=
  ⟨Crates.Sample.transferAddress b, .ofNat 5, some ⟨1, Nat.one_pos⟩⟩

/-- A withdrawal to two owners. -/
def withdrawal : Log JsError WithdrawUnbonded.Builder (WithdrawUnbonded.Call Crates.Sample.module)
    WithdrawUnbonded.Value × WithdrawUnbonded.Builder :=
  execute (WithdrawUnbonded.machine Crates.Sample.module Native.Sample.runtime)
    WithdrawUnbonded.Sample.start [.addOutput (output 7), .addOutput (output 8)]

def txId : String :=
  match outcome (WithdrawUnbonded.machine Crates.Sample.module Native.Sample.runtime) withdrawal.2
    .txId with
  | .ok (.text txId) => txId
  | _ => ""

theorem txId_withdrawal :
    outcome (WithdrawUnbonded.machine Crates.Sample.module Native.Sample.runtime) withdrawal.2
      .txId = .ok (.text txId) := by decide +kernel

theorem withdrawal_outputs : withdrawal.2.outputs = [output 7, output 8] := by decide +kernel

theorem withdrawal_network : withdrawal.2.network = mainnet := by decide +kernel

theorem owners (i : ℕ) (output : Output) (h : withdrawal.2.outputs[i]? = some output) :
    (Progress.Sample.keyPair i).hasPrivateKey = true ∧
      Transfer.transfer Crates.Sample.module (Progress.Sample.keyPair i)
        Transfer.Sample.start.network = .ok output.address := by
  rw [withdrawal_outputs] at h
  refine ⟨rfl, ?_⟩
  rcases i with _ | _ | i
  · obtain rfl := Option.some.inj h
    decide +kernel
  · obtain rfl := Option.some.inj h
    decide +kernel
  · cases h

end Sample

/-- A withdrawal to two owners is spent by them, the second signing first. -/
theorem outputs_spendable_two_owners :
    ∃ tx, Sample.txId =
        hexEncode (Crates.Sample.crates.transactions.withdrawUnbondedTx.id tx).val ∧
      Spent Crates.Sample.crates Native.Sample.module.multiSig Native.Sample.runtime (fun b => b.1)
        (Crates.Sample.crates.transactions.withdrawUnbondedTx.id tx) Sample.withdrawal.2.outputs
        tx.outputs
        (execute (Transfer.machine Crates.Sample.module Native.Sample.runtime) Transfer.Sample.start
          ((spendingInputs
            (hexEncode (Crates.Sample.crates.transactions.withdrawUnbondedTx.id tx).val)
            Sample.withdrawal.2.outputs).map .addInput))
        (execute (Transfer.machine Crates.Sample.module Native.Sample.runtime)
          (execute (Transfer.machine Crates.Sample.module Native.Sample.runtime)
            Transfer.Sample.start
            ((spendingInputs
              (hexEncode (Crates.Sample.crates.transactions.withdrawUnbondedTx.id tx).val)
              Sample.withdrawal.2.outputs).map .addInput)).2
          (Transfer.signings Progress.Sample.keyPair [1, 0])) := by
  have hadds : ∀ (raw : Crates.Sample.RawBuilder) i witness, i < raw.2.length →
      ∃ extended, Crates.Sample.crates.core.addWitness raw i witness = .ok extended := by
    intro raw i witness hi
    exact ⟨_, Crates.Sample.RawBuilder.addWitness_eq_ok.mpr ⟨hi, rfl⟩⟩
  have hspendable : OutputsSpendable Crates.Sample.crates Native.Sample.module.multiSig
      Native.Sample.runtime (fun b => b.1) :=
    outputs_spendable Crates.Sample.raw_builder_laws Submissions.Sample.finishes (fun _ => rfl)
      hadds Crates.Sample.signing_laws Crates.Sample.marshal_laws
      Crates.Sample.layout_laws.withdrawUnbondedTx.lawful
  have hlength : Sample.withdrawal.2.outputs.length = 2 :=
    congrArg List.length Sample.withdrawal_outputs
  have hfee : (parseLinearFeeConfig Crates.Sample.crates
      Transfer.Sample.start.nativeFeeConfig).toOption.isSome = true := by decide +kernel
  obtain ⟨tx, htxId, -, hspends⟩ := hspendable.withdrawal _ _ Sample.withdrawal.2
    Sample.withdrawal.1 Sample.txId WithdrawUnbonded.Sample.new_options (run_execute _ _ _)
    (by rw [Sample.withdrawal_network]; exact ⟨0x2A, by decide +kernel, Or.inl (by decide +kernel)⟩)
    Sample.txId_withdrawal
  refine ⟨tx, htxId, hspends none Transfer.Sample.start Transfer.Sample.start []
    Progress.Sample.keyPair [1, 0] Transfer.Sample.new_options .start rfl ?_ ?_
    ⟨_, eq_ok_of_isSome hfee⟩ ?_ Sample.owners ?_⟩
  · rw [Sample.withdrawal_network]
    rfl
  · rw [Sample.withdrawal_network]
    rfl
  · rw [Sample.withdrawal_outputs]
    exact List.cons_ne_nil _ _
  · intro i
    rw [hlength]
    exact Progress.Sample.mem_order i

end ThalerNodelib.Spending
