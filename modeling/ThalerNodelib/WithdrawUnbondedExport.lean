import ThalerNodelib.NativeExport
import ThalerNodelib.NetworkIdentification

/-!
When a completed withdrawal can be exported. Signing and giving a witness build
the transaction, so that in a signed builder the nonce and the network are known
to be encodable, and what is added later is too. What a given witness holds is
looked at by the export only.
-/
namespace ThalerNodelib.WithdrawUnbonded

open Js Native Network KeyPairs ThalerNodelib.Types Runs Crates FunctionTypes NativeExport
  NativeFromCrates NativeStaking NetworkIdentification

variable {crates : Crates} {multiSig : MultiSigModule} {runtime : Runtime}

/-- An export to an accepted address. -/
def IsExport {native : NativeModule} (runtime : Runtime) (c : Call native) : Prop :=
  ∃ address, c = .toHex address ∧
    owTendermintAddress runtime (address.getD defaultTendermintAddress) = none

/-- The nonce parses, and the chain id is that of the named network. -/
def Encodable (s : Builder) : Prop :=
  (∃ nonce, parseAccountNonce s.nonce.toString10 = .ok nonce) ∧ Identified s.network

/-- What the export of a signed builder computes. -/
theorem toHex_outcome {native : NativeModule} {s : Builder} (hs : (cell native).Coherent s)
    {witness : Buffer} (hw : s.witness = some witness) {address : Option String}
    (haddress : owTendermintAddress runtime (address.getD defaultTendermintAddress) = none) :
    outcome (machine native runtime) s (.toHex address) =
      ((cell native).build s >>= fun rawTx =>
        native.stakingTransaction.withdrawUnbondedTransactionToObfuscatedHex
          (some rawTx.unsignedRawTx) (some witness) (address.getD defaultTendermintAddress)
          (getRustFeaturesFromEnv runtime.nodeEnv)).map Value.buffer := by
  simp only [outcome, machine, EStateM.run_bind, toHex_run runtime hs, haddress, ow_none, hw]
  cases (cell native).build s with
  | error e => rfl
  | ok rawTx =>
    cases hnative : native.stakingTransaction.withdrawUnbondedTransactionToObfuscatedHex
      (some rawTx.unsignedRawTx) (some witness) (address.getD defaultTendermintAddress)
      (getRustFeaturesFromEnv runtime.nodeEnv) <;> simp [hnative, bind, Except.bind, Except.map]

/-- An export that succeeds had a witness and an accepted address. -/
theorem checks_of_toHex {native : NativeModule} {s : Builder} (hs : (cell native).Coherent s)
    {address : Option String} {v : Value}
    (h : outcome (machine native runtime) s (.toHex address) = .ok v) :
    (∃ witness, s.witness = some witness) ∧
      owTendermintAddress runtime (address.getD defaultTendermintAddress) = none := by
  simp only [outcome, machine, EStateM.run_bind, toHex_run runtime hs] at h
  cases how : owTendermintAddress runtime (address.getD defaultTendermintAddress) with
  | some message =>
    rw [how] at h
    cases h
  | none =>
    rw [how] at h
    cases hb : (cell native).build s with
    | error e =>
      rw [hb] at h
      cases h
    | ok rawTx =>
      rw [hb] at h
      cases hw : s.witness with
      | none => simp [hw] at h
      | some witness => exact ⟨⟨witness, rfl⟩, rfl⟩

theorem hasOutput_of_build {native : NativeModule} {s : Builder} {rawTx : RawTx}
    (h : (cell native).build s = .ok rawTx) : s.hasOutput = true := by
  cases houtput : s.hasOutput with
  | true => rfl
  | false =>
    rw [build_of_no_output houtput] at h
    cases h

/-- What is built is the object of a raw transaction. -/
theorem rawTxObject_of_build {s : Builder} {rawTx : RawTx}
    (h : (cell (nativeModule crates multiSig)).build s = .ok rawTx) :
    ∃ tx, rawTx = rawTxObject crates.transactions.withdrawUnbondedTx tx := by
  rw [build_of_hasOutput (hasOutput_of_build h)] at h
  obtain ⟨-, -, -, -, -, -, tx, -, hraw⟩ := buildRawWithdrawUnbondedTransaction_eq_ok h
  exact ⟨tx, hraw⟩

section Laws
variable (laws : ExportLaws crates)
include laws

/-- An accepted output parses on the network of the chain id. -/
theorem parseOutput_isOk {s : Builder} {output : Output} {chainHexId : UInt8}
    (hchain : chainHexIdFromVec s.network.chainHexId = .ok chainHexId)
    (hidentified : Identified s.network)
    (haccepted : owWithdrawUnbondedOutput (nativeModule crates multiSig) output = .ok none)
    (hnetwork : s.isTransferAddressInNetwork (nativeModule crates multiSig) output.address =
      .ok true) :
    ∃ txOut, parseOutput crates (parseOutputForNative output)
      (networkFromChainHexId chainHexId) = .ok txOut := by
  obtain ⟨chainHexId', address, hchain', haddress⟩ := hidentified.addressDecodes hnetwork
  obtain rfl : chainHexId = chainHexId' := ok_unique hchain hchain'
  obtain ⟨n, hn, -, hnumeral⟩ :=
    parseOutputForNative_value (owCoin_of_owWithdrawUnbondedOutput haccepted)
  obtain ⟨coin, hcoin⟩ := laws.coinFromStr n hn
  rw [← hnumeral] at hcoin
  exact ⟨⟨address, coin, _⟩, parseOutput_eq_ok.mpr ⟨chainNeon_eq_ok.mp haddress, hcoin, rfl⟩⟩

theorem build_isOk {s₀ s : Builder}
    {log : Log JsError Builder (Call (nativeModule crates multiSig)) Value}
    (hs : Replay (nativeModule crates multiSig) s₀ log s) (houtput : s.hasOutput = true)
    (h : Encodable s) : ∃ rawTx, (cell (nativeModule crates multiSig)).build s = .ok rawTx := by
  obtain ⟨⟨nonce, hnonce⟩, hidentified⟩ := h
  obtain ⟨chainHexId, hchain, -⟩ := id hidentified
  rw [build_of_hasOutput houtput]
  refine buildRawWithdrawUnbondedTransaction_isOk s.rawTxOptions hnonce hchain ?_ ?_
  · intro output hmem
    obtain ⟨o, ho, rfl⟩ := List.mem_map.mp hmem
    obtain ⟨haccepted, hnetwork⟩ := hs.outputs_accepted o ho
    exact parseOutput_isOk laws hchain hidentified haccepted hnetwork
  · intro viewKey hmem
    obtain ⟨valid, hvalid, hcheck⟩ := bind_eq_ok.mp (hs.viewKeys_accepted viewKey hmem)
    rw [(check_eq_none _ _).mp (Except.ok.inj hcheck)] at hvalid
    exact hvalid

/-- A transaction that was built shows that its builder is encodable: the
networks of the name and of the chain id accept a common address. -/
theorem encodable_of_build {s₀ s : Builder}
    {log : Log JsError Builder (Call (nativeModule crates multiSig)) Value} {rawTx : RawTx}
    (hs : Replay (nativeModule crates multiSig) s₀ log s)
    (h : (cell (nativeModule crates multiSig)).build s = .ok rawTx) : Encodable s := by
  have houtput := hasOutput_of_build h
  rw [build_of_hasOutput houtput] at h
  obtain ⟨nonce, chainHexId, outputs, hnonce, hchain, houtputs, -⟩ :=
    buildRawWithdrawUnbondedTransaction_eq_ok h
  refine ⟨⟨nonce, hnonce⟩, ?_⟩
  have hpos : 0 < s.outputs.length := by
    simpa [WithdrawUnbondedTransactionBuilder.hasOutput] using houtput
  obtain ⟨output, houtput⟩ := List.exists_mem_of_length_pos hpos
  obtain ⟨txOut, hparsed⟩ := (mapM_isOk_iff _ _).mp ⟨outputs, houtputs⟩ (parseOutputForNative output)
    (List.mem_map_of_mem houtput)
  obtain ⟨address, haddress, -⟩ := bind_eq_ok.mp hparsed
  exact identified_of_addressDecodes laws.fromCro_network s.network_accepted
    (hs.outputs_accepted output houtput).2 ⟨chainHexId, address, hchain, haddress⟩

/-- An export that succeeds decoded the witness. -/
theorem decodes_of_toHex {s : Builder} (hs : (cell (nativeModule crates multiSig)).Coherent s)
    {witness : Buffer} (hw : s.witness = some witness) {address : Option String}
    (haddress : owTendermintAddress runtime (address.getD defaultTendermintAddress) = none)
    {v : Value}
    (h : outcome (machine (nativeModule crates multiSig) runtime) s (.toHex address) = .ok v) :
    OpWitness crates witness := by
  rw [toHex_outcome hs hw haddress] at h
  obtain ⟨hex, hhex, -⟩ := map_eq_ok.mp h
  obtain ⟨rawTx, hb, hhex⟩ := bind_eq_ok.mp hhex
  obtain ⟨tx, rfl⟩ := rawTxObject_of_build hb
  exact (withdrawUnbondedTransactionToObfuscatedHex_isOk_iff laws tx witness
    (startsWith_of_owTendermintAddress haddress) _).mp ⟨hex, hhex⟩

end Laws

/-- What the export of a builder with the witness rests on. -/
structure Ready (crates : Crates) (s : Builder) (witness : Buffer) : Prop where
  hasOutput : s.hasOutput = true
  encodable : Encodable s
  decodes : OpWitness crates witness

theorem Step.given {native : NativeModule} {s t : Builder} {witness : Buffer} {v : Value}
    (h : Step native s (.addWitness witness) (.ok v) t) :
    t.witness = some witness ∧ t.isCompleted = true := by
  cases h with
  | addWitness rawTx _ hb _ =>
    have houtput := hasOutput_of_build hb
    refine ⟨rfl, ?_⟩
    simp only [WithdrawUnbondedTransactionBuilder.isCompleted]
    change (if !s.hasOutput then false else true) = true
    rw [houtput]
    rfl
  | kept hno => cases (hno v rfl).2
  | filled rawTx hno _ => cases (hno v rfl).2

theorem hasOutput_append {s : Builder} {outputs : List Output} (h : s.hasOutput = true) :
    { s.clearPreparedRawTx with outputs := s.outputs ++ outputs }.hasOutput = true := by
  simp only [WithdrawUnbondedTransactionBuilder.hasOutput, decide_eq_true_eq,
    List.length_append] at h ⊢
  omega

section Laws
variable (laws : ExportLaws crates)
include laws

/-- Each call keeps a stored witness ready, if a witness that is given decodes. -/
theorem Step.ready {s₀ s t : Builder} {c : Call (nativeModule crates multiSig)}
    {r : Except JsError Value}
    {log : Log JsError Builder (Call (nativeModule crates multiSig)) Value}
    (hs : Replay (nativeModule crates multiSig) s₀ log s)
    (hready : ∀ witness, s.witness = some witness → Ready crates s witness)
    (hdecodes : ∀ witness v, c = .addWitness witness → r = .ok v → OpWitness crates witness)
    (h : Step (nativeModule crates multiSig) s c r t) :
    ∀ witness, t.witness = some witness → Ready crates t witness := by
  intro witness hw
  cases h with
  | addOutput output _ _ _ =>
    obtain ⟨houtput, hencodable, hwitness⟩ := hready witness hw
    exact ⟨hasOutput_append houtput, hencodable, hwitness⟩
  | addViewKey viewKey _ =>
    obtain ⟨houtput, hencodable, hwitness⟩ := hready witness hw
    exact ⟨houtput, hencodable, hwitness⟩
  | sign keyPair rawTx signed hb hsign =>
    obtain rfl := Option.some.inj hw
    have hencodable := encodable_of_build laws hs hb
    refine ⟨hasOutput_of_build hb, hencodable, ?_⟩
    obtain ⟨tx, -, hsign⟩ := bind_eq_ok.mp hsign
    obtain ⟨w, -, hsign⟩ := bind_eq_ok.mp hsign
    obtain rfl := Except.ok.inj hsign
    exact ⟨w, laws.stakedStateOpWitness.read_encode w⟩
  | addWitness rawTx given hb _ =>
    obtain rfl := Option.some.inj hw
    have hencodable := encodable_of_build laws hs hb
    exact ⟨hasOutput_of_build hb, hencodable, hdecodes _ _ rfl rfl⟩
  | kept _ => exact hready witness hw
  | filled rawTx _ _ =>
    obtain ⟨houtput, hencodable, hwitness⟩ := hready witness hw
    exact ⟨houtput, hencodable, hwitness⟩

/-- A ready builder is exported. -/
theorem Ready.toHex {s₀ s : Builder}
    {log : Log JsError Builder (Call (nativeModule crates multiSig)) Value}
    (hs : Replay (nativeModule crates multiSig) s₀ log s) {witness : Buffer}
    (hw : s.witness = some witness) (hready : Ready crates s witness) {address : Option String}
    (haddress : owTendermintAddress runtime (address.getD defaultTendermintAddress) = none) :
    ∃ v, outcome (machine (nativeModule crates multiSig) runtime) s (.toHex address) = .ok v := by
  obtain ⟨rawTx, hb⟩ := build_isOk laws hs hready.hasOutput hready.encodable
  obtain ⟨tx, rfl⟩ := rawTxObject_of_build hb
  obtain ⟨hex, hhex⟩ := (withdrawUnbondedTransactionToObfuscatedHex_isOk_iff laws tx witness
    (startsWith_of_owTendermintAddress haddress)
    (getRustFeaturesFromEnv runtime.nodeEnv)).mpr hready.decodes
  refine ⟨.buffer hex, ?_⟩
  rw [toHex_outcome hs.coherent hw haddress, hb]
  exact map_eq_ok.mpr ⟨hex, hhex, rfl⟩

theorem run_ready {options : WithdrawUnbondedTransactionBuilderOptions} {s₀ s : Builder}
    {log : Log JsError Builder (Call (nativeModule crates multiSig)) Value}
    (hnew : WithdrawUnbondedTransactionBuilder.new options = .ok s₀)
    (run : Run (machine (nativeModule crates multiSig) runtime) s₀ log s)
    (hdecodes : ∀ e ∈ log, e.succeeded = true → ∀ witness, e.call = .addWitness witness →
      OpWitness crates witness) :
    ∀ witness, s.witness = some witness → Ready crates s witness := by
  revert hdecodes
  refine run.invariant (fun log s =>
    (∀ e ∈ log, e.succeeded = true → ∀ witness, e.call = .addWitness witness →
      OpWitness crates witness) →
    ∀ witness, s.witness = some witness → Ready crates s witness) ?_ ?_
  · intro _ witness hw
    obtain ⟨_, rfl⟩ := WithdrawUnbondedTransactionBuilder.new_eq_ok.mp hnew
    cases hw
  · intro log s c hrun ih hdecodes
    have hs := (Replay.start hnew).run hrun
    refine Step.ready laws hs (ih fun e he => hdecodes e (List.mem_cons_of_mem _ he)) ?_
      (step hs.coherent c)
    intro witness v hcall hv
    exact hdecodes _ (List.mem_cons_self ..) ((Entry.succeeded_iff _).mpr ⟨v, hv⟩) witness hcall

/-- The completed builders of a run can be exported exactly when each witness
that was given decodes. -/
theorem exports_iff (haddress : ∃ address, owTendermintAddress runtime address = none)
    {options : WithdrawUnbondedTransactionBuilderOptions} {s₀ s : Builder}
    {log : Log JsError Builder (Call (nativeModule crates multiSig)) Value}
    (hnew : WithdrawUnbondedTransactionBuilder.new options = .ok s₀)
    (run : Run (machine (nativeModule crates multiSig) runtime) s₀ log s) :
    SucceedsWhen (machine (nativeModule crates multiSig) runtime) s₀ log
      (fun t => t.isCompleted = true) (IsExport runtime) ↔
    ∀ e ∈ log, e.succeeded = true → ∀ witness, e.call = .addWitness witness →
      OpWitness crates witness := by
  constructor
  · intro hexports e he hok witness hcall
    obtain ⟨address, haddress⟩ := haddress
    obtain ⟨older, hsuffix, hrun, heq⟩ := run.mem_entry he
    obtain ⟨v, hv⟩ := (Entry.succeeded_iff e).mp hok
    have hs := (Replay.start hnew).run hrun
    have hstep : Step (nativeModule crates multiSig) e.before e.call
        (outcome (machine (nativeModule crates multiSig) runtime) e.before e.call)
        (next (machine (nativeModule crates multiSig) runtime) e.before e.call) :=
      step hs.coherent e.call
    have hnext := Run.call e.call hrun
    rw [← heq] at hnext
    have hcoherent := hstep.coherent hs.coherent
    have hout : outcome (machine (nativeModule crates multiSig) runtime) e.before e.call = .ok v := by
      rw [heq] at hv
      exact hv
    rw [hout, hcall] at hstep
    obtain ⟨hw, hcompleted⟩ := hstep.given
    rw [hcall] at hnext hcoherent
    obtain ⟨hex, hhex⟩ := hexports _ _ hsuffix hnext hcompleted (.toHex (some address))
      ⟨some address, rfl, haddress⟩
    exact decodes_of_toHex laws hcoherent hw haddress hhex
  · intro hdecodes older t hsuffix hrun hcompleted c h
    obtain ⟨address, rfl, haddress⟩ := h
    have hready := run_ready laws hnew hrun fun e he => hdecodes e (hsuffix.mem he)
    have hsigned : t.isSigned = true := by
      unfold WithdrawUnbondedTransactionBuilder.isCompleted at hcompleted
      split at hcompleted
      · cases hcompleted
      · exact hcompleted
    obtain ⟨witness, hw⟩ := Option.isSome_iff_exists.mp hsigned
    exact (hready witness hw).toHex laws ((Replay.start hnew).run hrun) hw haddress

end Laws
end ThalerNodelib.WithdrawUnbonded
