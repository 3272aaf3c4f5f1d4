import ThalerNodelib.ErrorTexts
import ThalerNodelib.TransferSteps
import ThalerNodelib.WithdrawRecomputation

/-!
Which calls can fail because the address of an output is not read: none of the
texts of the native module but that of `parse_output` says so, and that one is
only thrown where a transaction is built. A builder whose transaction is built
without it throws it in no call.
-/
namespace ThalerNodelib.ErrorTexts

open Js FunctionTypes Native Network Crates NativeStaking NativeTransfer NativeFromCrates

def addressMessage : String := "Unable to deserialize output address to CRO address"

/-- An error that an address of an output is not read. -/
abbrev AddressFailure : JsError → Prop := Chained addressMessage

variable {crates : Crates}

theorem avoids_chainHexIdFromVec (chainHexId : Buffer) :
    Avoids addressMessage (chainHexIdFromVec chainHexId) := by
  unfold chainHexIdFromVec
  split
  · exact .ok _
  · exact .literal (.of rfl rfl)

theorem avoids_networkFromStr (network : String) :
    Avoids addressMessage (networkFromStr network) := by
  unfold networkFromStr
  split
  · exact .ok _
  · exact .ok _
  · exact .ok _
  · exact .text (.of rfl rfl) _

theorem avoids_txidFromStr (txId : String) : Avoids addressMessage (txidFromStr txId) := by
  refine .chainNeon_bind (.of rfl rfl) fun bytes => ?_
  by_cases hlength : bytes.length = 32
  · rw [dif_pos hlength]
    exact .ok _
  · rw [dif_neg hlength]
    exact .literal (.of rfl rfl)

/-- An output whose address is read. -/
theorem avoids_parseOutput {output : NativeOutput} {network : NetworkEnum}
    {address : crates.types.ExtendedAddr}
    (h : parseOutputAddress crates output.address network = .ok address) :
    Avoids addressMessage (parseOutput crates output network) := by
  refine .bind (.of_eq_ok h) fun _ _ => ?_
  exact .chainNeon_bind (.of rfl rfl) fun _ => .ok _

theorem avoids_parseViewKey (viewKey : Buffer) :
    Avoids addressMessage (parseViewKey crates viewKey) := .chainNeon (.of rfl rfl)

theorem avoids_parseLinearFeeConfig (feeConfig : NativeFeeConfig) :
    Avoids addressMessage (parseLinearFeeConfig crates feeConfig) := by
  have hparts : Avoids addressMessage (do
      let constant ← chainNeon (crates.transactions.milliFromStr feeConfig.constant)
        "Invalid constant config in LinearFee"
      let coefficient ← chainNeon (crates.transactions.milliFromStr feeConfig.coefficient)
        "Invalid coefficient config in LinearFee"
      return { constant := constant, coefficient := coefficient } :
        Except JsError (LinearFee crates.types)) :=
    .chainNeon_bind (.of rfl rfl) fun _ => .chainNeon_bind (.of rfl rfl) fun _ => .ok _
  unfold parseLinearFeeConfig
  refine .ite (.bind ?_ fun _ _ => hparts) hparts
  exact .text (.of rfl rfl) _

theorem avoids_parseKeyPair (keyPair : NativeKeyPair) :
    Avoids addressMessage (parseKeyPair crates keyPair) :=
  .bind (.chainThrow crates (.of rfl rfl)) fun _ _ => .chainNeon_bind (.of rfl rfl) fun _ =>
    .bind (.chainThrow crates (.of rfl rfl)) fun _ _ => .chainNeon_bind (.of rfl rfl) fun _ =>
      .ok _

/-- The parts of a transaction whose addresses are all read. -/
theorem avoids_buildIncompleteHexLinearFee
    (hpanic : ∀ text, ¬ AddressFailure (.error (crates.neon.panic text)))
    {options : BuildIncompleteHexOptions}
    (hdecodes : ∀ output ∈ options.inputs.map NativeInput.prevOutput ++ options.outputs,
      ∀ chainHexId, chainHexIdFromVec options.chainHexId = .ok chainHexId →
        ∃ address, parseOutputAddress crates output.address (networkFromChainHexId chainHexId) =
          .ok address) :
    Avoids addressMessage (NativeTransfer.buildIncompleteHexLinearFee crates options) := by
  have hraw : Avoids addressMessage (parseRawTxOptions crates options) := by
    refine .bind (avoids_chainHexIdFromVec _) fun chainHexId hchain => ?_
    refine .bind (.mapM ?_) fun _ _ => .bind (.mapM ?_) fun _ _ =>
      .bind (.mapM fun viewKey _ => avoids_parseViewKey viewKey) fun _ _ => .ok _
    · intro input hinput
      obtain ⟨address, haddress⟩ := hdecodes input.prevOutput
        (List.mem_append_left _ (List.mem_map_of_mem hinput)) chainHexId hchain
      exact .bind (avoids_txidFromStr _) fun _ _ => .bind (avoids_parseOutput haddress) fun _ _ =>
        .ok _
    · intro output houtput
      obtain ⟨address, haddress⟩ := hdecodes output (List.mem_append_right _ houtput) chainHexId
        hchain
      exact avoids_parseOutput haddress
  have hleaves : ∀ input, Avoids addressMessage (inputLeaves crates input) := by
    intro input
    unfold inputLeaves
    split
    · exact .ok _
    · exact .error (hpanic _)
    · exact .error (hpanic _)
  refine .bind (.bind hraw fun _ _ => .bind (avoids_parseLinearFeeConfig _) fun _ _ => .ok _)
    fun parsed _ => ?_
  refine .bind (.mapM fun input _ => ?_) fun _ _ => .ok _
  exact .bind (hleaves input) fun _ _ => .ok _

theorem avoids_incompleteBuilder (builder : IncompleteBuilder) :
    Avoids addressMessage (incompleteBuilderLinearFeeArgument crates builder) :=
  .bind (.chainThrow crates (.of rfl rfl)) fun _ _ =>
    .bind (avoids_parseLinearFeeConfig _) fun _ _ => .chainNeon (.of rfl rfl)

theorem avoids_addInputWitnessLinearFee (builder : IncompleteBuilder) (index : JsNumber)
    (witness : Buffer) :
    Avoids addressMessage (addInputWitnessLinearFee crates builder index witness) :=
  .bind (avoids_incompleteBuilder builder) fun _ _ => .chainNeon_bind (.of rfl rfl) fun _ =>
    .chainNeon_bind (.of rfl rfl) fun _ => .chainNeon_bind (.of rfl rfl) fun _ => .ok _

theorem avoids_signInputLinearFee (builder : IncompleteBuilder) (index : JsNumber)
    (keyPair : NativeKeyPair) :
    Avoids addressMessage (signInputLinearFee crates builder index keyPair) :=
  .bind (avoids_incompleteBuilder builder) fun _ _ => .bind (avoids_parseKeyPair keyPair) fun _ _ =>
    .chainNeon_bind (.of rfl rfl) fun _ => .chainNeon_bind (.of rfl rfl) fun _ =>
      .chainNeon_bind (.of rfl rfl) fun _ => .chainNeon_bind (.of rfl rfl) fun _ => .ok _

theorem avoids_feeText (fee : Except String crates.types.Fee) :
    Avoids addressMessage (feeText crates fee) :=
  .chainNeon_bind (.of rfl rfl) fun _ => .chainNeon_bind (.of rfl rfl) fun _ => .ok _

theorem avoids_websocketClient (tendermintAddress : String) :
    Avoids addressMessage (websocketClient crates tendermintAddress) := by
  unfold websocketClient
  refine .ite (.bind (.literal (.of rfl rfl)) fun _ _ => ?_) ?_
  · exact .chainNeon (.of rfl rfl)
  · exact .chainNeon (.of rfl rfl)

theorem avoids_toHexLinearFee (builder : IncompleteBuilder) (tendermintAddress : String)
    (features : Features) :
    Avoids addressMessage (toHexLinearFee crates builder tendermintAddress features) := by
  refine .bind (avoids_incompleteBuilder builder) fun _ _ => .bind ?_ fun _ _ =>
    .chainNeon_bind (.of rfl rfl) fun _ => .ok _
  cases features with
  | allDefault =>
    exact .bind (avoids_websocketClient _) fun _ _ => .chainNeon (.of rfl rfl)
  | mockAbci => exact .bind (avoids_websocketClient _) fun _ _ => .ok _
  | mockObfuscation => exact .ok _

theorem avoids_publicKeyArgument (publicKey : Buffer) :
    Avoids addressMessage (publicKeyArgument crates publicKey) := .chainNeon (.of rfl rfl)

theorem avoids_getTransferAddressFromPublicKey (publicKey : Buffer) (network : String) :
    Avoids addressMessage (getTransferAddressFromPublicKey crates publicKey network) :=
  .bind (avoids_publicKeyArgument publicKey) fun _ _ => .bind (avoids_networkFromStr network)
    fun _ _ => .chainNeon_bind (.of rfl rfl) fun _ => .chainNeon (.of rfl rfl)

theorem avoids_isTransferAddressValid (address network : String) :
    Avoids addressMessage (isTransferAddressValid crates address network) :=
  .bind (avoids_networkFromStr network) fun _ _ => .ok _

/-- A withdrawal whose outputs' addresses are all read. -/
theorem avoids_buildRawWithdrawUnbondedTransaction
    {options : BuildRawWithdrawUnbondedTransactionOptions}
    (hdecodes : ∀ output ∈ options.outputs,
      ∀ chainHexId, chainHexIdFromVec options.chainHexId = .ok chainHexId →
        ∃ address, parseOutputAddress crates output.address (networkFromChainHexId chainHexId) =
          .ok address) :
    Avoids addressMessage (buildRawWithdrawUnbondedTransaction crates options) := by
  refine .chainNeon_bind (.of rfl rfl) fun _ => .bind (avoids_chainHexIdFromVec _)
    fun chainHexId hchain => .bind (.mapM fun output houtput => ?_) fun _ _ =>
      .bind (.mapM fun viewKey _ => avoids_parseViewKey viewKey) fun _ _ => .ok _
  obtain ⟨address, haddress⟩ := hdecodes output houtput chainHexId hchain
  exact avoids_parseOutput haddress

theorem avoids_txArgument {α : Type} (format : TransactionFormat α) (bytes : Option Buffer) :
    Avoids addressMessage (txArgument crates format bytes) :=
  .bind (.bufferArgument crates bytes) fun _ _ => .chainNeon (.of rfl rfl)

theorem avoids_signId (id : H256) (keyPair : NativeKeyPair) :
    Avoids addressMessage (signId crates id keyPair) :=
  .bind (avoids_parseKeyPair keyPair) fun _ _ => .chainNeon_bind (.of rfl rfl) fun _ =>
    .chainNeon_bind (.of rfl rfl) fun _ => .ok _

theorem avoids_withdrawUnbondedTransactionToWitness (unsignedRawTx : Option Buffer)
    (keyPair : NativeKeyPair) :
    Avoids addressMessage (withdrawUnbondedTransactionToWitness crates unsignedRawTx keyPair) :=
  .bind (avoids_txArgument _ _) fun _ _ => .bind (avoids_signId _ keyPair) fun _ _ => .ok _

theorem avoids_withdrawUnbondedTransactionToSignedPlainHex (unsignedRawTx witness : Option Buffer) :
    Avoids addressMessage
      (withdrawUnbondedTransactionToSignedPlainHex crates unsignedRawTx witness) :=
  .bind (avoids_txArgument _ _) fun _ _ => .bind (.bufferArgument crates witness) fun _ _ =>
    .chainNeon_bind (.of rfl rfl) fun _ => .ok _

theorem avoids_withdrawUnbondedTransactionToObfuscatedHex (unsignedRawTx witness : Option Buffer)
    (tendermintAddress : String) (features : Features) :
    Avoids addressMessage (withdrawUnbondedTransactionToObfuscatedHex crates unsignedRawTx witness
      tendermintAddress features) :=
  .bind (avoids_txArgument _ _) fun _ _ => .bind (.bufferArgument crates witness) fun _ _ =>
    .chainNeon_bind (.of rfl rfl) fun _ => .bind (.chainThrow crates (.of rfl rfl))
      fun _ _ => .ok _

theorem avoids_estimateWithdrawUnbondedTransactionFee (unsignedRawTx : Option Buffer)
    (feeConfig : NativeFeeConfig) :
    Avoids addressMessage
      (estimateWithdrawUnbondedTransactionFee crates unsignedRawTx feeConfig) :=
  .bind (avoids_txArgument _ _) fun _ _ => .bind (avoids_parseLinearFeeConfig _) fun _ _ =>
    avoids_feeText _

/-! The validators of the library. -/

open KeyPairs ThalerNodelib.Types Runs

variable {multiSig : MultiSigModule} {runtime : Runtime}

theorem avoids_owTransferAddress (value : String) :
    Avoids addressMessage (owTransferAddress (nativeModule crates multiSig) value) := by
  refine .bind ?_ fun _ _ => .ok _
  unfold validateTransferAddress
  refine .ite (avoids_isTransferAddressValid _ _) (.ite (avoids_isTransferAddressValid _ _)
    (.ite (avoids_isTransferAddressValid _ _) (.ok _)))

theorem avoids_owOutput (output : Output) :
    Avoids addressMessage (owOutput (nativeModule crates multiSig) output) :=
  .bind (avoids_owTransferAddress output.address) fun _ _ => .ok _

theorem avoids_owWithdrawUnbondedOutput (output : Output) :
    Avoids addressMessage (owWithdrawUnbondedOutput (nativeModule crates multiSig) output) :=
  .bind (avoids_owTransferAddress output.address) fun _ _ => .ok _

theorem avoids_owInput (input : Input) :
    Avoids addressMessage (owInput (nativeModule crates multiSig) input) :=
  .bind (avoids_owOutput input.prevOutput) fun _ _ => .ok _

theorem avoids_owViewKey (viewKey : Buffer) :
    Avoids addressMessage (owViewKey (nativeModule crates multiSig) viewKey) := .ok _

theorem avoids_parseFeeConfigForNative (feeConfig : FeeConfig) :
    Avoids addressMessage (parseFeeConfigForNative feeConfig) := by
  unfold parseFeeConfigForNative
  exact .ite (.ok _) (.text (.of rfl rfl) _)

end ThalerNodelib.ErrorTexts

namespace ThalerNodelib.Transfer

open Js Native Network KeyPairs ThalerNodelib.Types Runs Crates NativeTransfer NativeFromCrates
  ErrorTexts

variable {crates : Crates} {multiSig : MultiSigModule} {runtime : Runtime}

section

variable {s : Builder}

theorem avoids_verifyHasInput : Avoids addressMessage s.verifyHasInput := by
  unfold TransferTransactionBuilder.verifyHasInput
  exact .ite (.literal (.of rfl rfl)) (.ok ())

theorem avoids_verifyHasOutput : Avoids addressMessage s.verifyHasOutput := by
  unfold TransferTransactionBuilder.verifyHasOutput
  exact .ite (.literal (.of rfl rfl)) (.ok ())

theorem avoids_linearFee {α : Type} (incompleteHex : Option Buffer)
    {function : IncompleteBuilder → Except JsError α}
    (h : ∀ builder, Avoids addressMessage (function builder)) :
    Avoids addressMessage (s.linearFee incompleteHex function) := by
  rw [s.linearFee_eq]
  exact h _

theorem avoids_isCompleted :
    Avoids addressMessage (s.isCompleted (nativeModule crates multiSig)) := by
  unfold TransferTransactionBuilder.isCompleted
  split
  · exact .ok false
  · exact avoids_linearFee _ fun builder =>
      .bind (avoids_incompleteBuilder builder) fun _ _ => .ok _

theorem avoids_verify : Avoids addressMessage (s.verify (nativeModule crates multiSig)) :=
  .bind avoids_verifyHasInput fun _ _ => .bind avoids_verifyHasOutput fun _ _ =>
    avoids_linearFee _ fun builder => .bind (avoids_incompleteBuilder builder) fun _ _ =>
      .chainNeon (.of rfl rfl)

theorem avoids_toHex (address : Option String) :
    Avoids addressMessage (toHex (nativeModule crates multiSig) runtime s address) := by
  refine .bind (.ow _ _) fun _ _ => .bind avoids_verifyHasInput fun _ _ =>
    .bind avoids_verifyHasOutput fun _ _ => .bind avoids_isCompleted fun completed _ => ?_
  have hrest : Avoids addressMessage (do
      s.verify (nativeModule crates multiSig)
      let feeConfig ← parseFeeConfigForNative s.feeConfig
      (nativeModule crates multiSig).transferTransaction.toHexLinearFee ⟨s.incompleteHex, feeConfig⟩
        (address.getD defaultTendermintAddress) (getRustFeaturesFromEnv runtime.nodeEnv)) :=
    .bind avoids_verify fun _ _ => .bind (avoids_parseFeeConfigForNative _) fun _ _ =>
      avoids_toHexLinearFee _ _ _
  exact .ite (.bind (.literal (.of rfl rfl)) fun _ _ => hrest) hrest

-- the transaction is built without a failure at an address
variable (hbuild : Avoids addressMessage (s.buildIncompleteHex (nativeModule crates multiSig)))
include hbuild

theorem avoids_toIncompleteHex :
    Avoids addressMessage (s.toIncompleteHex (nativeModule crates multiSig)) := by
  unfold TransferTransactionBuilder.toIncompleteHex
  split
  · exact .ok _
  · exact hbuild

theorem avoids_txId : Avoids addressMessage (s.txId (nativeModule crates multiSig)) := by
  refine .bind avoids_verifyHasInput fun _ _ => .ite ?_ ?_
  · exact .bind hbuild fun _ _ => avoids_linearFee _ fun builder =>
      .bind (avoids_incompleteBuilder builder) fun _ _ => .ok _
  · exact .text (.of rfl rfl) _

theorem avoids_estimateFee :
    Avoids addressMessage (s.estimateFee (nativeModule crates multiSig)) := by
  refine .ite ?_ (.text (.of rfl rfl) _)
  exact .bind avoids_verifyHasInput fun _ _ => .bind avoids_verifyHasOutput fun _ _ =>
    .bind hbuild fun _ _ => avoids_linearFee _ fun builder =>
      .bind (avoids_incompleteBuilder builder) fun _ _ => avoids_feeText _

theorem avoids_answer (q : Query) :
    Avoids addressMessage (answer (nativeModule crates multiSig) runtime s q) := by
  cases q with
  | estimateFee => exact .map (avoids_estimateFee hbuild) _
  | txId => exact .map (avoids_txId hbuild) _
  | verify => exact .map avoids_verify _
  | toIncompleteHex => exact .map (avoids_toIncompleteHex hbuild) _
  | isCompleted => exact .map avoids_isCompleted _
  | toHex address => exact .map (avoids_toHex address) _
  | getNetwork => exact .ok _
  | feeConfig => exact .ok _
  | inputsLength => exact .ok _
  | outputsLength => exact .ok _
  | viewKeysLength => exact .ok _

theorem avoids_prepareIncompleteSigningHex :
    AvoidsAt addressMessage (prepareIncompleteSigningHex (nativeModule crates multiSig)) s := by
  intro e t he
  have hhex := avoids_toIncompleteHex hbuild
  rw [prepareIncompleteSigningHex_run] at he
  split at he
  · cases he
  · rename_i e' hfails
    cases he
    exact hhex _ hfails

end

theorem avoids_transfer (keyPair : KeyPair (nativeModule crates multiSig))
    (network : NetworkConfig) :
    Avoids addressMessage (transfer (nativeModule crates multiSig) keyPair network) := by
  refine .bind (.ow _ _) fun _ _ => ?_
  split
  · exact .literal (.of rfl rfl)
  · exact avoids_getTransferAddressFromPublicKey _ _

theorem avoids_verifySignable (s : Builder) (index : JsNumber)
    (keyPair : KeyPair (nativeModule crates multiSig)) :
    Avoids addressMessage (verifySignable (nativeModule crates multiSig) s index keyPair) := by
  refine .bind (.ow _ _) fun _ _ => .ite (.bind (.literal (.of rfl rfl)) fun _ _ => ?_) ?_
  -- the error for a missing private key, and what is checked with one
  all_goals
    refine .bind (avoids_transfer keyPair _) fun _ _ => ?_
    split
    · exact .typeError _
    · exact .ite (.ok ()) (.literal (.of rfl rfl))

/-- A builder whose transaction is built without a failure at an address has no
call that fails at one. -/
theorem avoids_call {s : Builder}
    (hbuild : Avoids addressMessage (s.buildIncompleteHex (nativeModule crates multiSig)))
    (c : Call (nativeModule crates multiSig)) :
    Avoids addressMessage (outcome (machine (nativeModule crates multiSig) runtime) s c) := by
  apply AvoidsAt.outcome
  cases c with
  | addInput input =>
    refine .bind ?_ fun _ _ _ => .of_run_ok rfl
    refine .call_bind (.owNative (avoids_owInput input) _) fun _ => .get_bind
      (.call_bind (avoids_isTransferAddressValid _ _) fun _ => .ite ?_ (.of_run_ok rfl))
    exact .bind (.throw (.literal (.of rfl rfl))) fun _ _ _ => .of_run_ok rfl
  | addOutput output =>
    refine .bind ?_ fun _ _ _ => .of_run_ok rfl
    refine .call_bind (.owNative (avoids_owOutput output) _) fun _ => .get_bind
      (.call_bind (avoids_isTransferAddressValid _ _) fun _ => .ite ?_ (.of_run_ok rfl))
    exact .bind (.throw (.literal (.of rfl rfl))) fun _ _ _ => .of_run_ok rfl
  | addViewKey viewKey =>
    refine .bind ?_ fun _ _ _ => .of_run_ok rfl
    exact .call_bind (.owNative (avoids_owViewKey viewKey) _) fun _ => .of_run_ok rfl
  | signInput index keyPair =>
    refine .bind ?_ fun _ _ _ => .of_run_ok rfl
    refine .get_bind (.call_bind (avoids_verifySignable s index keyPair) fun _ => ?_)
    refine .bind (avoids_prepareIncompleteSigningHex hbuild) fun _ t _ => .get_bind ?_
    refine .call_bind (avoids_linearFee _ fun builder => ?_) fun _ => .of_run_ok rfl
    exact avoids_signInputLinearFee builder index _
  | addWitness index witness =>
    refine .bind ?_ fun _ _ _ => .of_run_ok rfl
    refine .get_bind (.call_bind (.ow _ _) fun _ => ?_)
    refine .bind (avoids_prepareIncompleteSigningHex hbuild) fun _ t _ => .get_bind ?_
    refine .call_bind (avoids_linearFee _ fun builder => ?_) fun _ => .of_run_ok rfl
    exact avoids_addInputWitnessLinearFee builder index witness
  | query q => exact .get_bind (.call (avoids_answer hbuild q))

end ThalerNodelib.Transfer

namespace ThalerNodelib.WithdrawUnbonded

open Js Native Network KeyPairs ThalerNodelib.Types Runs Crates NativeStaking NativeFromCrates
  ErrorTexts

variable {crates : Crates} {multiSig : MultiSigModule} {runtime : Runtime} {s : Builder}

theorem avoids_ensurePrepared (hbuild : Avoids addressMessage
      (buildRawWithdrawUnbondedTransaction crates s.rawTxOptions)) :
    AvoidsAt addressMessage (ensurePrepared (nativeModule crates multiSig)) s := by
  have hprepare : AvoidsAt addressMessage (prepareRawTx (nativeModule crates multiSig)) s :=
    .get_bind (.call_bind hbuild fun _ => .of_run_ok rfl)
  refine .get_bind (.ite (.get_bind (.ite ?_ hprepare)) (.of_run_ok rfl))
  exact .bind (.throw (.literal (.of rfl rfl))) fun _ _ h => by cases h

theorem avoids_answer (q : Query) : Avoids addressMessage (answer s q) := by
  cases q with
  | getWitness =>
    refine .map ?_ _
    unfold WithdrawUnbondedTransactionBuilder.getWitness
    exact .ite (.literal (.of rfl rfl)) (.ok _)
  | getNetwork => exact .ok _
  | getNonce => exact .ok _
  | feeConfig => exact .ok _
  | getTotalOutputAmount => exact .ok _
  | outputsLength => exact .ok _
  | viewKeysLength => exact .ok _
  | isSigned => exact .ok _
  | isCompleted => exact .ok _
  | hasOutput => exact .ok _

/-- A builder whose raw transaction is built without a failure at an address has
no call that fails at one. -/
theorem avoids_call (hbuild : Avoids addressMessage
      (buildRawWithdrawUnbondedTransaction crates s.rawTxOptions))
    (c : Call (nativeModule crates multiSig)) :
    Avoids addressMessage (outcome (machine (nativeModule crates multiSig) runtime) s c) := by
  have hprepared : AvoidsAt addressMessage (ensurePrepared (nativeModule crates multiSig)) s :=
    avoids_ensurePrepared hbuild
  apply AvoidsAt.outcome
  cases c with
  | addOutput output =>
    refine .bind ?_ fun _ _ _ => .of_run_ok rfl
    refine .call_bind (.owNative (avoids_owWithdrawUnbondedOutput output) _) fun _ =>
      .get_bind (.ite (.bind (.throw (.literal (.of rfl rfl))) fun _ _ h => by cases h) ?_)
    refine .get_bind (.call_bind (avoids_isTransferAddressValid _ _) fun _ =>
      .ite ?_ (.of_run_ok rfl))
    exact .bind (.throw (.literal (.of rfl rfl))) fun _ _ _ => .of_run_ok rfl
  | addViewKey viewKey =>
    refine .bind ?_ fun _ _ _ => .of_run_ok rfl
    exact .call_bind (.owNative (avoids_owViewKey viewKey) _) fun _ => .of_run_ok rfl
  | sign keyPair =>
    refine .bind (.bind hprepared fun _ t _ => .get_bind ?_) fun _ _ _ => .of_run_ok rfl
    refine .call_bind ?_ fun _ => .of_run_ok rfl
    exact avoids_withdrawUnbondedTransactionToWitness _ _
  | addWitness witness =>
    refine .bind (.call_bind (.ow _ _) fun _ => ?_) fun _ _ _ => .of_run_ok rfl
    exact .bind hprepared fun _ _ _ => .of_run_ok rfl
  | txId => exact .bind (.bind hprepared fun _ _ _ => .of_run_ok rfl) fun _ _ _ => .of_run_ok rfl
  | estimateFee =>
    refine .bind (.bind hprepared fun _ t _ => .get_bind ?_) fun _ _ _ => .of_run_ok rfl
    refine .call_bind (avoids_parseFeeConfigForNative _) fun _ => .get_bind (.call ?_)
    exact avoids_estimateWithdrawUnbondedTransactionFee _ _
  | toUnsignedHex =>
    refine .bind (.bind hprepared fun _ t _ => .get_bind ?_) fun _ _ _ => .of_run_ok rfl
    split
    · exact .of_run_ok rfl
    · exact .throw (.typeError _)
  | toSignedPlainHex =>
    refine .bind (.get_bind (.ite ?_ ?_)) fun _ _ _ => .of_run_ok rfl
    · exact .bind (.throw (.literal (.of rfl rfl))) fun _ _ h => by cases h
    · refine .get_bind (.get_bind (.call_bind ?_ fun _ => .of_run_ok rfl))
      exact avoids_withdrawUnbondedTransactionToSignedPlainHex _ _
  | toHex address =>
    refine .bind (.call_bind (.ow _ _) fun _ => ?_) fun _ _ _ => .of_run_ok rfl
    refine .bind hprepared fun _ t _ => .get_bind (.ite ?_ ?_)
    · exact .bind (.throw (.literal (.of rfl rfl))) fun _ _ h => by cases h
    · refine .get_bind (.get_bind (.call ?_))
      exact avoids_withdrawUnbondedTransactionToObfuscatedHex _ _ _ _
  | query q => exact .get_bind (.call (avoids_answer q))

end ThalerNodelib.WithdrawUnbonded
