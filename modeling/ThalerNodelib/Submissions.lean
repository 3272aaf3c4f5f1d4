import ThalerNodelib.Marshalling
import ThalerNodelib.SignedHex
import ThalerNodelib.TransferCompletion
import ThalerNodelib.WitnessFreshness

/-!
What the builders of deposit, withdraw unbonded and transfer transactions hand
to the obfuscation: one transaction with the parts that were accepted, in their
order, on the chain id of the network, and witnesses that were supplied for it.
-/
namespace ThalerNodelib.NativeStaking

open Js Native Network Crates FunctionTypes NativeExport

variable {crates : Crates}

theorem bufferFromHex_hexEncode (bytes : Buffer) : bufferFromHex (hexEncode bytes) = bytes := by
  rw [bufferFromHex, hexEncode, String.toList_ofList]
  exact leadingHexBytes_hexChars false bytes

/-- Signing the hex of an id gives the encoding of a witness for the id. -/
theorem schnorrSignTxId_eq_ok {id : H256} {keyPair : NativeKeyPair} {bytes : Buffer} :
    schnorrSignTxId crates (bufferFromHex (hexEncode id.val)) keyPair = .ok bytes ↔
      ∃ witness, Transfer.Signs crates keyPair id witness ∧
        bytes = crates.transactions.txInWitness.encode witness := by
  rw [bufferFromHex_hexEncode]
  constructor
  · intro h
    obtain ⟨⟨privateKey, publicKey⟩, hkeys, h⟩ := bind_eq_ok.mp h
    obtain ⟨signer, hsigner, h⟩ := bind_eq_ok.mp h
    obtain ⟨witness, hwitness, h⟩ := bind_eq_ok.mp h
    exact ⟨witness, ⟨privateKey, publicKey, signer, hkeys, chainNeon_eq_ok.mp hsigner,
      chainNeon_eq_ok.mp hwitness⟩, (Except.ok.inj h).symm⟩
  · intro h
    obtain ⟨witness, ⟨privateKey, publicKey, signer, hkeys, hsigner, hwitness⟩, rfl⟩ := h
    exact bind_eq_ok.mpr ⟨(privateKey, publicKey), hkeys, bind_eq_ok.mpr ⟨signer,
      chainNeon_eq_ok.mpr hsigner, bind_eq_ok.mpr ⟨witness, chainNeon_eq_ok.mpr hwitness, rfl⟩⟩⟩

theorem txInWitnessVecArgument_eq_ok {witnesses : List Buffer}
    {read : List crates.types.TxInWitness} :
    txInWitnessVecArgument crates (witnesses.map some) = .ok read ↔
      List.Forall₂ (fun bytes witness => crates.transactions.txInWitness.read bytes = .ok witness)
        witnesses read := by
  rw [txInWitnessVecArgument, mapM_eq_ok, List.forall₂_map_left_iff]
  have hread : ∀ (bytes : Buffer) witness, (do
      let witness ← downcastBuffer crates (some bytes) "Unable to downcast witness"
      decode crates.transactions.txInWitness witness "Unable to decode witness") = .ok witness ↔
        crates.transactions.txInWitness.read bytes = .ok witness := by
    intro bytes witness
    exact chainNeon_eq_ok
  simp only [hread]

/-- The raw deposit transaction says what its options said. -/
theorem buildRawDepositTransaction_says {options : BuildRawDepositTransactionOptions}
    {rawTx : RawTx} (h : buildRawDepositTransaction crates options = .ok rawTx) :
    ∃ tx, rawTx = rawTxObject crates.transactions.depositBondTx tx ∧
      List.Forall₂ (fun pointer parsed => parsePrevOutputPointer pointer = .ok parsed)
        options.inputs tx.inputs ∧
      crates.keys.stakedStateAddressFromStr options.toAddress = .ok tx.toStakedAccount ∧
      options.chainHexId = [tx.attributes.chainHexId] := by
  obtain ⟨inputs, hinputs, h⟩ := bind_eq_ok.mp h
  obtain ⟨toAddress, haddress, h⟩ := bind_eq_ok.mp h
  obtain ⟨chainHexId, hchain, h⟩ := bind_eq_ok.mp h
  exact ⟨_, (Except.ok.inj h).symm, (mapM_eq_ok _ _ _).mp hinputs, chainNeon_eq_ok.mp haddress,
    chainHexIdFromVec_eq_ok.mp hchain⟩

end ThalerNodelib.NativeStaking

namespace ThalerNodelib.Deposit

open Js Native Network KeyPairs ThalerNodelib.Types Runs Crates NativeExport NativeFromCrates
  NativeStaking Marshalling

variable {crates : Crates} {multiSig : MultiSigModule} {runtime : Runtime}

/-- A successful call that supplied the witness: as bytes that are read as it,
or as the signature of the id. -/
def Witnesses (crates : Crates) (id : H256) (i : ℕ) (witness : crates.types.TxInWitness)
    (e : Event (nativeModule crates multiSig)) : Prop :=
  e.succeeded = true ∧
    ((∃ index bytes, e.call = .addWitness index bytes ∧ index.arrayIndex = some i ∧
        crates.transactions.txInWitness.read bytes = .ok witness) ∨
      ∃ index keyPair, e.call = .signInput index keyPair ∧ index.arrayIndex = some i ∧
        Transfer.Signs crates keyPair.toObject id witness)

/-- The transaction points to the accepted inputs, and has the address and the
chain id of the options; each witness was supplied for it since the last input was added. -/
structure Submission (crates : Crates) (multiSig : MultiSigModule)
    (options : DepositTransactionBuilderOptions)
    (log : List (Event (nativeModule crates multiSig))) (tx : DepositBondTx crates.types)
    (witnesses : List crates.types.TxInWitness) : Prop where
  inputs : List.Forall₂ (fun pointer parsed => Points parsed pointer.prevTxId pointer.prevIndex)
    (accepted Call.prevOutputPointer log) tx.inputs
  toStakedAccount :
    crates.keys.stakedStateAddressFromStr options.stakingAddress = .ok tx.toStakedAccount
  chainHexId : (initNetwork options.network).chainHexId = [tx.attributes.chainHexId]
  witnesses_length : witnesses.length = tx.inputs.length
  witnessed : ∀ i witness, witnesses[i]? = some witness →
    Since (Witnesses crates (crates.transactions.depositBondTx.id tx) i witness) IsAddInput log

/-- What was supplied as bytes is read as a witness for the id of the inputs. -/
theorem Supplies.witnesses (hlawful : crates.transactions.txInWitness.Lawful)
    {s : Builder (nativeModule crates multiSig)} {tx : DepositBondTx crates.types}
    (hbuild : (cell (nativeModule crates multiSig)).build s =
      .ok (rawTxObject crates.transactions.depositBondTx tx))
    {i : ℕ} {bytes : Buffer} {witness : crates.types.TxInWitness}
    (hread : crates.transactions.txInWitness.read bytes = .ok witness)
    {e : Event (nativeModule crates multiSig)} (h : Supplies s i bytes e) :
    Witnesses crates (crates.transactions.depositBondTx.id tx) i witness e := by
  obtain ⟨hok, hgiven | ⟨index, keyPair, rawTx, hcall, hi, hraw, hsign⟩⟩ := h
  · obtain ⟨index, hcall, hi⟩ := hgiven
    exact ⟨hok, Or.inl ⟨index, bytes, hcall, hi, hread⟩⟩
  · obtain rfl := ok_unique hbuild hraw
    obtain ⟨signed, hsigns, rfl⟩ := schnorrSignTxId_eq_ok.mp hsign
    obtain rfl := ok_unique (hlawful.read_encode signed) hread
    exact ⟨hok, Or.inr ⟨index, keyPair, hcall, hi, hsigns⟩⟩

/-- What a deposit exports is the obfuscation of one transaction, the one whose id
the builder shows, with the accepted inputs and a witness for each. -/
theorem deposit_submission (formats : FormatLaws crates.transactions)
    {options : DepositTransactionBuilderOptions} {s₀ s : Builder (nativeModule crates multiSig)}
    {log : List (Event (nativeModule crates multiSig))}
    (hnew : DepositTransactionBuilder.new (nativeModule crates multiSig) options = .ok s₀)
    (run : Run (machine (nativeModule crates multiSig) runtime) s₀ log s)
    {address : Option String} {hex : Buffer}
    (h : outcome (machine (nativeModule crates multiSig) runtime) s (.toHex address) =
      .ok (.buffer hex)) :
    ∃ tx witnesses txAux, Submission crates multiSig options log tx witnesses ∧
      outcome (machine (nativeModule crates multiSig) runtime) s .txId =
        .ok (.text (hexEncode (crates.transactions.depositBondTx.id tx).val)) ∧
      signedTransactionToTxAux crates (.depositStakeTransaction tx witnesses)
        (address.getD defaultTendermintAddress) (getRustFeaturesFromEnv runtime.nodeEnv) =
          .ok txAux ∧
      hex = crates.transactions.txAux.encode txAux := by
  have hs := (History.start hnew).run run
  obtain ⟨rawTx, bytes, obfuscated, hbuild, hbytes, hexport, hvalue⟩ := toHex_emits hs.coherent h
  obtain rfl := Value.buffer.inj hvalue
  have hcompleted := (checks_of_toHex hs.coherent h).1
  have hraw := hbuild
  rw [build_of_hasInput (hasInput_of_isCompleted hcompleted)] at hraw
  obtain ⟨tx, rfl, hinputs, haddress, hchain⟩ := buildRawDepositTransaction_says hraw
  obtain ⟨tx', htx, hexport⟩ := bind_eq_ok.mp hexport
  obtain rfl := ok_unique (txArgument_rawTxObject crates formats.depositBondTx.lawful tx) htx
  obtain ⟨witnesses, hwitnesses, hexport⟩ := bind_eq_ok.mp hexport
  obtain ⟨txAux, haux, hexport⟩ := bind_eq_ok.mp hexport
  have hread := txInWitnessVecArgument_eq_ok.mp hwitnesses
  have hpointers : s.rawTxOptions.inputs = accepted Call.prevOutputPointer log := hs.pointers
  have haccepted := run_pointersAccepted hnew run
  have hlength : s.rawTxOptions.inputs.length = bytes.length := by
    have hlengths := congrArg List.length hbytes
    rw [List.length_map, List.length_map] at hlengths
    rw [← hlengths]
    exact List.length_map ..
  obtain ⟨_, rfl⟩ := DepositTransactionBuilder.new_eq_ok.mp hnew
  refine ⟨tx, witnesses, txAux, ⟨?_, ?_, ?_, ?_, ?_⟩, ?_, haux, (Except.ok.inj hexport).symm⟩
  · rw [← hpointers]
    refine ((List.forall₂_and_left _ _).mpr ⟨haccepted, hinputs⟩).imp fun pointer parsed h => ?_
    exact points_of_parsePrevOutputPointer h.1 h.2
  · have hoptions : s.stakingAddress = options.stakingAddress := hs.stakingAddress
    rwa [← hoptions]
  · have hnetwork : s.network = initNetwork options.network := hs.network
    rwa [← hnetwork]
  · rw [← hread.length_eq, ← hlength, hinputs.length_eq]
  · intro i witness hi
    obtain ⟨hlt, rfl⟩ := List.getElem?_eq_some_iff.mp hi
    have hlt' : i < bytes.length := by rwa [hread.length_eq]
    have hstored : (s.inputs.map WitnessedPrevOutputPointer.witness)[i]? = some (some bytes[i]) := by
      rw [hbytes, List.getElem?_map, List.getElem?_eq_getElem hlt']
      rfl
    rw [List.getElem?_map] at hstored
    obtain ⟨input, hinput, hwitness⟩ := Option.map_eq_some_iff.mp hstored
    exact (hs.supplied i input bytes[i] hinput hwitness).mono fun _ hsupplies =>
      hsupplies.witnesses formats.txInWitness.lawful hbuild (hread.get hlt' hlt)
  · simp only [outcome, machine, EStateM.run_bind, txId, ensurePrepared_run hs.coherent, hbuild]
    rfl

end ThalerNodelib.Deposit

namespace ThalerNodelib.Marshalling

open Js Native Network ThalerNodelib.Types Crates FunctionTypes NativeFromCrates
  NetworkIdentification

variable {crates : Crates} {coinValue : crates.types.Coin → ℕ}

/-- An output as the native module writes it: the address read on the network,
the value as it is, and the lock time cast. -/
structure Writes (crates : Crates) (coinValue : crates.types.Coin → ℕ) (network : NetworkConfig)
    (output : Output) (txOut : TxOut crates.types) : Prop where
  address : ∃ named : NetworkEnum, named.name = network.name ∧
    crates.keys.fromCro output.address named = .ok txOut.address
  value : output.value = .ofNat (coinValue txOut.value)
  validFrom : txOut.validFrom = output.validFrom.map fun time => castU64 time.toNumber

/-- An accepted output is written on the network that its address was checked for. -/
theorem writes_of_parsed (laws : MarshalLaws crates coinValue) {network : NetworkConfig}
    (hnetwork : owNetworkConfig network = true) {output : Output}
    (hcoin : owCoin output.value = none)
    (hvalid : isTransferAddressValid crates output.address network.name = .ok true)
    {chainHexId : UInt8} (hchain : network.chainHexId = [chainHexId]) {txOut : TxOut crates.types}
    (hparsed : parseOutput crates (parseOutputForNative output)
      (networkFromChainHexId chainHexId) = .ok txOut) :
    Writes crates coinValue network output txOut := by
  have hchain := chainHexIdFromVec_eq_ok.mpr hchain
  obtain ⟨haddress, -, -⟩ := parseOutput_eq_ok.mp hparsed
  obtain ⟨chainHexId', hchain', hname⟩ := identified_of_addressDecodes laws.fromCro_network hnetwork
    hvalid ⟨chainHexId, txOut.address, hchain, chainNeon_eq_ok.mpr haddress⟩
  obtain rfl := ok_unique hchain hchain'
  obtain ⟨value, hparsed', hvalue⟩ := parseOutput_eq laws hcoin haddress
  have hsame := ok_unique hparsed' hparsed
  refine ⟨⟨_, hname, haddress⟩, ?_, ?_⟩
  · rw [← hsame, hvalue]
  · rw [← hsame]

end ThalerNodelib.Marshalling

namespace ThalerNodelib.WithdrawUnbonded

open Js Native Network KeyPairs ThalerNodelib.Types Runs Crates FunctionTypes NativeExport
  NativeFromCrates NativeStaking Marshalling

variable {crates : Crates} {multiSig : MultiSigModule} {runtime : Runtime}
  {coinValue : crates.types.Coin → ℕ}

/-- The raw withdrawal says what its options said. -/
theorem buildRawWithdrawUnbondedTransaction_says
    {options : BuildRawWithdrawUnbondedTransactionOptions} {rawTx : RawTx}
    (h : buildRawWithdrawUnbondedTransaction crates options = .ok rawTx) :
    ∃ tx, rawTx = rawTxObject crates.transactions.withdrawUnbondedTx tx ∧
      parseAccountNonce options.nonce = .ok tx.nonce ∧
      options.chainHexId = [tx.attributes.chainHexId] ∧
      List.Forall₂ (fun output txOut => parseOutput crates output
        (networkFromChainHexId tx.attributes.chainHexId) = .ok txOut) options.outputs tx.outputs ∧
      List.Forall₂ (fun viewKey (policy : TxAccessPolicy crates.types) =>
        parseViewKey crates viewKey = .ok policy.viewKey) options.viewKeys
          tx.attributes.allowedView := by
  obtain ⟨nonce, hnonce, h⟩ := bind_eq_ok.mp h
  obtain ⟨chainHexId, hchain, h⟩ := bind_eq_ok.mp h
  obtain ⟨outputs, houtputs, h⟩ := bind_eq_ok.mp h
  obtain ⟨viewKeys, hviewKeys, h⟩ := bind_eq_ok.mp h
  refine ⟨_, (Except.ok.inj h).symm, hnonce, chainHexIdFromVec_eq_ok.mp hchain,
    (mapM_eq_ok _ _ _).mp houtputs, ?_⟩
  exact List.forall₂_map_right_iff.mpr ((mapM_eq_ok _ _ _).mp hviewKeys)

/-- The transaction has the nonce and the chain id of the options, and the
accepted outputs and view keys in their order. -/
structure Withdraws (crates : Crates) (multiSig : MultiSigModule)
    (coinValue : crates.types.Coin → ℕ) (options : WithdrawUnbondedTransactionBuilderOptions)
    (log : Log JsError Builder (Call (nativeModule crates multiSig)) Value)
    (tx : WithdrawUnbondedTx crates.types) : Prop where
  nonce : options.nonce = .ofNat tx.nonce.toNat
  chainHexId : (initNetwork options.network).chainHexId = [tx.attributes.chainHexId]
  outputs : List.Forall₂ (Writes crates coinValue (initNetwork options.network))
    (accepted Call.output log) tx.outputs
  viewKeys : List.Forall₂ (fun viewKey (policy : TxAccessPolicy crates.types) =>
    parseViewKey crates viewKey = .ok policy.viewKey) (accepted Call.viewKey log)
      tx.attributes.allowedView

theorem withdraws_of_build (laws : MarshalLaws crates coinValue)
    {options : WithdrawUnbondedTransactionBuilderOptions} {s₀ s : Builder}
    {log : Log JsError Builder (Call (nativeModule crates multiSig)) Value}
    (hnew : WithdrawUnbondedTransactionBuilder.new options = .ok s₀)
    (hs : Replay (nativeModule crates multiSig) s₀ log s) {rawTx : RawTx}
    (h : (cell (nativeModule crates multiSig)).build s = .ok rawTx) :
    ∃ tx, rawTx = rawTxObject crates.transactions.withdrawUnbondedTx tx ∧
      Withdraws crates multiSig coinValue options log tx := by
  rw [build_of_hasOutput (hasOutput_of_build h)] at h
  obtain ⟨tx, hraw, hnonce, hchain, houtputs, hviewKeys⟩ :=
    buildRawWithdrawUnbondedTransaction_says h
  have haccepted := s.nonce_accepted
  have hconfig := s.network_accepted
  obtain ⟨_, rfl⟩ := WithdrawUnbondedTransactionBuilder.new_eq_ok.mp hnew
  have hsnonce : s.nonce = options.nonce := hs.nonce
  have hsnetwork : s.network = initNetwork options.network := hs.network
  refine ⟨tx, hraw, ?_, ?_, ?_, ?_⟩
  · rw [← hsnonce]
    obtain ⟨n, -, hn⟩ := (owAccountNonce_iff _).mp haccepted
    apply (parseAccountNonce_eq_ok ?_).mp hnonce
    rw [hn]
    exact BigNumber.isInteger_ofNat n
  · rwa [← hsnetwork]
  · rw [← hs.outputs, ← hsnetwork]
    have hparsed := (List.forall₂_and_left _ _).mpr
      ⟨hs.outputs_accepted, List.forall₂_map_left_iff.mp houtputs⟩
    refine hparsed.imp fun output txOut houtput => ?_
    obtain ⟨⟨houtput, hvalid⟩, hparsed⟩ := houtput
    exact writes_of_parsed laws hconfig (owCoin_of_owWithdrawUnbondedOutput houtput) hvalid hchain
      hparsed
  · rwa [← hs.viewKeys]

/-- A successful `sign` or `addWitness`. -/
def IsSigning (e : Entry JsError Builder (Call (nativeModule crates multiSig)) Value) : Prop :=
  e.succeeded = true ∧ e.call.isSigning = true

/-- A successful call that stored the bytes: as they were given, or as the
signature of the transaction that the builder then had. -/
def Stores (bytes : Buffer)
    (e : Entry JsError Builder (Call (nativeModule crates multiSig)) Value) : Prop :=
  e.succeeded = true ∧ (e.call = .addWitness bytes ∨
    ∃ keyPair rawTx, e.call = .sign keyPair ∧
      (cell (nativeModule crates multiSig)).build e.before = .ok rawTx ∧
      withdrawUnbondedTransactionToWitness crates (some rawTx.unsignedRawTx) keyPair.toObject =
        .ok bytes)

/-- The witness is the one that the last `sign` or `addWitness` stored. -/
def StoredLast (log : Log JsError Builder (Call (nativeModule crates multiSig)) Value)
    (s : Builder) : Prop :=
  ∀ bytes, s.witness = some bytes → Since (Stores bytes) IsSigning log

theorem StoredLast.step {s t : Builder} {c : Call (nativeModule crates multiSig)}
    {r : Except JsError Value}
    {log : Log JsError Builder (Call (nativeModule crates multiSig)) Value}
    (hs : StoredLast log s) (h : Step (nativeModule crates multiSig) s c r t) :
    StoredLast (⟨s, c, r⟩ :: log) t := by
  intro bytes hbytes
  apply (since_cons _ _).mpr
  have hkeeps : (∀ v, r = .ok v → c.isSigning = false) →
      ¬ IsSigning (⟨s, c, r⟩ : Entry JsError Builder (Call (nativeModule crates multiSig)) Value) := by
    intro hno hsigning
    obtain ⟨hok, hcall⟩ := hsigning
    obtain ⟨v, hv⟩ := (Entry.succeeded_iff _).mp hok
    rw [hno v hv] at hcall
    cases hcall
  cases h with
  | addOutput output _ _ _ => exact Or.inr ⟨hkeeps fun _ _ => rfl, hs bytes hbytes⟩
  | addViewKey viewKey _ => exact Or.inr ⟨hkeeps fun _ _ => rfl, hs bytes hbytes⟩
  | sign keyPair rawTx witness hb hsign =>
    obtain rfl := Option.some.inj hbytes
    exact Or.inl ⟨rfl, Or.inr ⟨keyPair, rawTx, rfl, hb, hsign⟩⟩
  | addWitness rawTx witness hb _ =>
    obtain rfl := Option.some.inj hbytes
    exact Or.inl ⟨rfl, Or.inl rfl⟩
  | kept hno => exact Or.inr ⟨hkeeps fun v hv => (hno v hv).2, hs bytes hbytes⟩
  | filled rawTx hno _ => exact Or.inr ⟨hkeeps fun v hv => (hno v hv).2, hs bytes hbytes⟩

theorem storedLast_of_run {options : WithdrawUnbondedTransactionBuilderOptions} {s₀ s : Builder}
    {log : Log JsError Builder (Call (nativeModule crates multiSig)) Value}
    (hnew : WithdrawUnbondedTransactionBuilder.new options = .ok s₀)
    (run : Run (machine (nativeModule crates multiSig) runtime) s₀ log s) : StoredLast log s := by
  refine run.invariant StoredLast ?_ fun _ s c hrun hs =>
    hs.step (step (run_coherent (new_coherent hnew) hrun) c)
  intro bytes hbytes
  rw [new_unsigned hnew] at hbytes
  cases hbytes

/-- The witness is the one supplied last: as bytes that are read as it, or as the
signature of the transaction of that time, which is the submitted one if nothing
was added since. -/
def WitnessedLast (crates : Crates) (multiSig : MultiSigModule)
    (coinValue : crates.types.Coin → ℕ) (options : WithdrawUnbondedTransactionBuilderOptions)
    (log : Log JsError Builder (Call (nativeModule crates multiSig)) Value)
    (tx : WithdrawUnbondedTx crates.types) (witness : crates.types.StakedStateOpWitness) : Prop :=
  ∃ newer e older, log = newer ++ e :: older ∧ e.succeeded = true ∧
    (∀ x ∈ newer, ¬ IsSigning x) ∧
    ((∃ bytes, e.call = .addWitness bytes ∧
        crates.transactions.stakedStateOpWitness.read bytes = .ok witness) ∨
      ∃ keyPair signed, e.call = .sign keyPair ∧
        Withdraws crates multiSig coinValue options older signed ∧
        signId crates (crates.transactions.withdrawUnbondedTx.id signed) keyPair.toObject =
          .ok witness ∧
        ((∀ x ∈ newer, ¬ IsAddition x) → signed = tx))

/-- Without additions the accepted outputs and view keys stay. -/
theorem accepted_of_no_addition {α : Type}
    {part : Call (nativeModule crates multiSig) → Option α}
    (hpart : ∀ c, c.isAddition = false → part c = none)
    {newer : Log JsError Builder (Call (nativeModule crates multiSig)) Value}
    (h : ∀ x ∈ newer, ¬ IsAddition x) : accepted part newer = [] := by
  rw [accepted, List.filterMap_eq_nil_iff]
  intro e he
  obtain ⟨he, hok⟩ := List.mem_filter.mp he
  apply hpart
  by_contra hadds
  exact h e (List.mem_reverse.mp he) ⟨hok, by simpa using hadds⟩

/-- Since a call that added nothing, and without additions after it, the builder
builds the same transaction. -/
theorem build_eq_of_no_addition {s₀ s t : Builder}
    {newer older : Log JsError Builder (Call (nativeModule crates multiSig)) Value}
    {e : Entry JsError Builder (Call (nativeModule crates multiSig)) Value}
    (hs : Replay (nativeModule crates multiSig) s₀ (newer ++ e :: older) s)
    (ht : Replay (nativeModule crates multiSig) s₀ older t) (he : ¬ IsAddition e)
    (hnewer : ∀ x ∈ newer, ¬ IsAddition x) :
    (cell (nativeModule crates multiSig)).build s =
      (cell (nativeModule crates multiSig)).build t := by
  have hparts : ∀ {α : Type} (part : Call (nativeModule crates multiSig) → Option α),
      (∀ c, c.isAddition = false → part c = none) →
      accepted part (newer ++ e :: older) = accepted part older := by
    intro α part hpart
    have hnone : accepted part (newer ++ [e]) = [] := by
      refine accepted_of_no_addition hpart fun x hx => ?_
      rcases List.mem_append.mp hx with hx | hx
      · exact hnewer x hx
      · obtain rfl := List.mem_singleton.mp hx
        exact he
    rw [List.append_cons, accepted_append, hnone, List.append_nil]
  have houtputs : s.outputs = t.outputs := by
    rw [hs.outputs, ht.outputs, hparts _ output_of_not_addition]
  have hviewKeys : s.viewKeys = t.viewKeys := by
    rw [hs.viewKeys, ht.viewKeys, hparts _ viewKey_of_not_addition]
  have hoptions : s.rawTxOptions = t.rawTxOptions := by
    simp only [WithdrawUnbondedTransactionBuilder.rawTxOptions, houtputs, hviewKeys, hs.nonce,
      ht.nonce, hs.network, ht.network]
  have hhas : s.hasOutput = t.hasOutput := by
    simp only [WithdrawUnbondedTransactionBuilder.hasOutput, houtputs]
  simp only [cell, hhas, hoptions]

/-- What is stored was witnessed. -/
theorem witnessedLast_of_stored (formats : FormatLaws crates.transactions)
    (laws : MarshalLaws crates coinValue) {options : WithdrawUnbondedTransactionBuilderOptions}
    {s₀ s : Builder} {log : Log JsError Builder (Call (nativeModule crates multiSig)) Value}
    (hnew : WithdrawUnbondedTransactionBuilder.new options = .ok s₀)
    (run : Run (machine (nativeModule crates multiSig) runtime) s₀ log s)
    {tx : WithdrawUnbondedTx crates.types}
    (hbuild : (cell (nativeModule crates multiSig)).build s =
      .ok (rawTxObject crates.transactions.withdrawUnbondedTx tx))
    {bytes : Buffer} (hbytes : s.witness = some bytes)
    {witness : crates.types.StakedStateOpWitness}
    (hread : crates.transactions.stakedStateOpWitness.read bytes = .ok witness) :
    WitnessedLast crates multiSig coinValue options log tx witness := by
  obtain ⟨newer, e, older, rfl, ⟨hok, hstores⟩, hnewer⟩ := storedLast_of_run hnew run bytes hbytes
  refine ⟨newer, e, older, rfl, hok, hnewer, ?_⟩
  rcases hstores with hgiven | ⟨keyPair, rawTx, hcall, hraw, hsign⟩
  · exact Or.inl ⟨bytes, hgiven, hread⟩
  right
  have hs := (Replay.start hnew).run run
  obtain ⟨_, hrun, -⟩ := run.split newer
  cases hrun with
  | @call _ t c hrun =>
    have ht := (Replay.start hnew).run hrun
    obtain ⟨signed, rfl, hwithdraws⟩ := withdraws_of_build laws hnew ht hraw
    obtain ⟨tx', htx, hsign⟩ := bind_eq_ok.mp hsign
    obtain rfl := ok_unique
      (txArgument_rawTxObject crates formats.withdrawUnbondedTx.lawful signed) htx
    obtain ⟨made, hmade, hsign⟩ := bind_eq_ok.mp hsign
    obtain rfl := Except.ok.inj hsign
    obtain rfl := ok_unique (formats.stakedStateOpWitness.lawful.read_encode made) hread
    refine ⟨keyPair, signed, hcall, hwithdraws, hmade, fun hadds => ?_⟩
    have hnot : ¬ IsAddition (entry (machine (nativeModule crates multiSig) runtime) t c) := by
      intro hadd
      have hcalls := hadd.2
      rw [hcall] at hcalls
      cases hcalls
    have hsame := (build_eq_of_no_addition hs ht hnot hadds).symm.trans hbuild
    have hraws := congrArg RawTx.unsignedRawTx (ok_unique hraw hsame)
    exact formats.withdrawUnbondedTx.lawful.encode_injective hraws

/-- What a withdrawal exports is the obfuscation of one transaction, the one whose
id the builder shows, with the accepted outputs and the witness supplied last. -/
theorem withdraw_submission (formats : FormatLaws crates.transactions)
    (laws : MarshalLaws crates coinValue) {options : WithdrawUnbondedTransactionBuilderOptions}
    {s₀ s : Builder} {log : Log JsError Builder (Call (nativeModule crates multiSig)) Value}
    (hnew : WithdrawUnbondedTransactionBuilder.new options = .ok s₀)
    (run : Run (machine (nativeModule crates multiSig) runtime) s₀ log s)
    {address : Option String} {hex : Buffer}
    (h : outcome (machine (nativeModule crates multiSig) runtime) s (.toHex address) =
      .ok (.buffer hex)) :
    ∃ tx witness txAux, Withdraws crates multiSig coinValue options log tx ∧
      WitnessedLast crates multiSig coinValue options log tx witness ∧
      outcome (machine (nativeModule crates multiSig) runtime) s .txId =
        .ok (.text (hexEncode (crates.transactions.withdrawUnbondedTx.id tx).val)) ∧
      signedTransactionToTxAux crates (.withdrawUnbondedStakeTransaction tx witness)
        (address.getD defaultTendermintAddress) (getRustFeaturesFromEnv runtime.nodeEnv) =
          .ok txAux ∧
      hex = crates.transactions.txAux.encode txAux := by
  have hs := (Replay.start hnew).run run
  obtain ⟨rawTx, bytes, obfuscated, hbuild, hbytes, hexport, hvalue⟩ := toHex_emits hs.coherent h
  obtain rfl := Value.buffer.inj hvalue
  obtain ⟨tx, rfl, hwithdraws⟩ := withdraws_of_build laws hnew hs hbuild
  obtain ⟨tx', htx, hexport⟩ := bind_eq_ok.mp hexport
  obtain rfl := ok_unique (txArgument_rawTxObject crates formats.withdrawUnbondedTx.lawful tx) htx
  obtain ⟨given, hgiven, hexport⟩ := bind_eq_ok.mp hexport
  obtain rfl := Except.ok.inj hgiven
  obtain ⟨witness, hread, hexport⟩ := bind_eq_ok.mp hexport
  obtain ⟨txAux, haux, hexport⟩ := bind_eq_ok.mp hexport
  refine ⟨tx, witness, txAux, hwithdraws, ?_, ?_, (chainThrow_eq_ok crates).mp haux,
    (Except.ok.inj hexport).symm⟩
  · exact witnessedLast_of_stored formats laws hnew run hbuild hbytes (chainNeon_eq_ok.mp hread)
  · simp only [outcome, machine, EStateM.run_bind, txId_run hs.coherent, hbuild]
    rfl

end ThalerNodelib.WithdrawUnbonded

namespace ThalerNodelib.Transfer

open Js Native Network KeyPairs ThalerNodelib.Types Runs Crates FunctionTypes NativeStaking
  NativeTransfer NativeFromCrates Marshalling

variable {crates : Crates} {multiSig : MultiSigModule} {runtime : Runtime}
  {coinValue : crates.types.Coin → ℕ} {contents : crates.core.Builder → RawContents crates.types}
  {witnesses : crates.core.Builder → List (Option crates.types.TxInWitness)}

/-- `to_tx_aux` encrypts the transaction that the raw builder holds, with all its
witnesses, and fails while one is missing. -/
def Finishes (crates : Crates) (contents : crates.core.Builder → RawContents crates.types)
    (witnesses : crates.core.Builder → List (Option crates.types.TxInWitness)) : Prop :=
  ∀ raw encrypt aux, crates.core.toTxAux raw encrypt = .ok aux →
    ∃ tx given, tx.inputs = (contents raw).inputs.map (fun input => input.1.1) ∧
      tx.outputs = (contents raw).outputs ∧ tx.attributes = (contents raw).attributes ∧
      crates.transactions.tx.id tx = crates.core.txId raw ∧ witnesses raw = given.map some ∧
      encrypt (.transferTransaction tx given) = .ok aux

/-- A successful call that supplied the witness: as bytes that are read as it, or
as the signature of the id under a key pair that unlocks the input. -/
def Supplies (network : NetworkConfig) (inputs : List Input) (id : H256) (i : ℕ)
    (witness : crates.types.TxInWitness)
    (e : Entry JsError Builder (Call (nativeModule crates multiSig)) Value) : Prop :=
  e.succeeded = true ∧
    ((∃ bytes, e.call = .addWitness (.ofNat i) bytes ∧
        crates.transactions.txInWitness.read bytes = .ok witness) ∨
      ∃ keyPair input, e.call = .signInput (.ofNat i) keyPair ∧
        Signs crates keyPair.toObject id witness ∧ inputs[i]? = some input ∧
        transfer (nativeModule crates multiSig) keyPair network = .ok input.prevOutput.address)

/-- Each witness of the stored transaction was supplied for it since the last addition. -/
def Supplied (witnesses : crates.core.Builder → List (Option crates.types.TxInWitness))
    (multiSig : MultiSigModule)
    (log : Log JsError Builder (Call (nativeModule crates multiSig)) Value) (s : Builder)
    (raw : crates.core.Builder) : Prop :=
  ∀ i witness, (witnesses raw)[i]? = some (some witness) →
    Since (Supplies s.network s.inputs (crates.core.txId raw) i witness) Adds log

/-- What is stored is a transaction with supplied witnesses. -/
def Keeps (contents : crates.core.Builder → RawContents crates.types)
    (witnesses : crates.core.Builder → List (Option crates.types.TxInWitness))
    (multiSig : MultiSigModule)
    (log : Log JsError Builder (Call (nativeModule crates multiSig)) Value) (s : Builder) : Prop :=
  ∀ incompleteHex, s.incompleteHex = some incompleteHex →
    ∃ raw, Extends contents witnesses (nativeModule crates multiSig) s incompleteHex raw ∧
      Supplied witnesses multiSig log s raw

/-- What `verifySignable` checked of the key pair. -/
theorem unlocks_of_verifySignable {native : NativeModule} {s : Builder} {i : ℕ}
    {keyPair : KeyPair native} (h : verifySignable native s (.ofNat i) keyPair = .ok ()) :
    ∃ input, s.inputs[i]? = some input ∧
      transfer native keyPair s.network = .ok input.prevOutput.address := by
  unfold verifySignable at h
  obtain ⟨_, -, h⟩ := bind_eq_ok.mp h
  obtain ⟨-, h⟩ := ite_throw_bind_eq_ok.mp h
  obtain ⟨signingAddress, haddress, h⟩ := bind_eq_ok.mp h
  rw [TransferTransactionBuilder.inputAt, JsNumber.arrayIndex_ofNat, Option.bind_some] at h
  cases hinput : s.inputs[i]? with
  | none =>
    rw [hinput] at h
    cases h
  | some input =>
    rw [hinput] at h
    by_cases hsame : input.prevOutput.address = signingAddress
    · exact ⟨input, rfl, by rw [hsame, haddress]⟩
    · simp [hsame] at h

section Laws
variable (laws : RawBuilderLaws crates.core crates.transactions contents witnesses)
  {log : Log JsError Builder (Call (nativeModule crates multiSig)) Value}
include laws

theorem Keeps.toIncompleteHex {s : Builder} (hs : Keeps contents witnesses multiSig log s)
    (hinput : s.hasInput = true) {incompleteHex : Buffer}
    (h : s.toIncompleteHex (nativeModule crates multiSig) = .ok incompleteHex) :
    ∃ raw, Extends contents witnesses (nativeModule crates multiSig) s incompleteHex raw ∧
      Supplied witnesses multiSig log s raw := by
  unfold TransferTransactionBuilder.toIncompleteHex at h
  cases hstored : s.incompleteHex with
  | some stored =>
    rw [hstored] at h
    obtain rfl := Except.ok.inj h
    exact hs stored hstored
  | none =>
    rw [hstored] at h
    obtain ⟨raw, rfl, hdecodes, hnone⟩ := built_decodes laws h
    refine ⟨raw, ⟨hdecodes, hinput, raw, h, rfl⟩, fun i witness hwitness => ?_⟩
    exact absurd ⟨witness, hwitness⟩ (not_witnessed_of_replicate hnone i)

/-- A witness added by a call that supplies it. -/
theorem Keeps.supply {s : Builder} {c : Call (nativeModule crates multiSig)} {v : Value}
    {incompleteHex : Buffer} {raw extended : crates.core.Builder} {i : ℕ}
    {witness : crates.types.TxInWitness}
    (hs : Keeps contents witnesses multiSig log s) (hinput : s.hasInput = true)
    (hhex : s.toIncompleteHex (nativeModule crates multiSig) = .ok incompleteHex)
    (hraw : incompleteBuilderLinearFeeArgument crates ⟨some incompleteHex, s.nativeFeeConfig⟩ =
      .ok raw)
    (hadd : crates.core.addWitness raw i witness = .ok extended)
    (hnot : c.isAddition = false)
    (hsupplies : Supplies s.network s.inputs (crates.core.txId raw) i witness
      (⟨s, c, .ok v⟩ : Entry JsError Builder (Call (nativeModule crates multiSig)) Value)) :
    Keeps contents witnesses multiSig (⟨s, c, .ok v⟩ :: log)
      (s.setIncompleteHex (crates.core.toIncomplete extended)) := by
  intro stored hstored
  obtain rfl := Option.some.inj hstored
  obtain ⟨raw', hextends, hsupplied⟩ := hs.toIncompleteHex laws hinput hhex
  obtain rfl := ok_unique hextends.decoded hraw
  refine ⟨extended, (hextends.addWitness laws hadd).1.setIncompleteHex _, fun j given hgiven => ?_⟩
  have hid : crates.core.txId extended = crates.core.txId raw' :=
    laws.txId_contents _ _ (laws.addWitness_contents _ _ _ _ hadd)
  obtain ⟨hi, hset⟩ := laws.addWitness_witnesses _ _ _ _ hadd
  rw [hid]
  rw [hset] at hgiven
  apply (since_cons _ _).mpr
  by_cases hij : i = j
  · subst hij
    rw [List.getElem?_set_self hi] at hgiven
    obtain rfl := Option.some.inj (Option.some.inj hgiven)
    exact Or.inl hsupplies
  · rw [List.getElem?_set_ne hij] at hgiven
    refine Or.inr ⟨fun hadds => ?_, hsupplied j given hgiven⟩
    obtain ⟨-, hadds⟩ := hadds
    rw [hnot] at hadds
    cases hadds

theorem Keeps.step {s t : Builder} {c : Call (nativeModule crates multiSig)}
    {r : Except JsError Value} (hs : Keeps contents witnesses multiSig log s)
    (h : Step (nativeModule crates multiSig) s c r t) :
    Keeps contents witnesses multiSig (⟨s, c, r⟩ :: log) t := by
  cases h with
  | addInput input _ _ =>
    intro stored hstored
    cases hstored
  | addOutput output _ _ =>
    intro stored hstored
    cases hstored
  | addViewKey viewKey _ =>
    intro stored hstored
    cases hstored
  | signInput index keyPair incompleteHex updated hverify hhex hsign =>
    obtain ⟨raw, i, witness, extended, hraw, hi, hsigns, hadd, rfl⟩ := signInputLinearFee_eq_ok hsign
    obtain rfl := JsNumber.arrayIndex_eq_some hi
    obtain ⟨input, hinput, hunlocks⟩ := unlocks_of_verifySignable hverify
    exact hs.supply laws (hasInput_of_owIndex (owIndex_of_verifySignable hverify)) hhex hraw hadd rfl
      ⟨rfl, Or.inr ⟨keyPair, input, rfl, hsigns, hinput, hunlocks⟩⟩
  | addWitness index bytes incompleteHex updated hindex hhex hnative =>
    obtain ⟨raw, i, witness, extended, hraw, hi, hread, hadd, rfl⟩ :=
      addInputWitnessLinearFee_eq_ok.mp hnative
    obtain rfl := JsNumber.arrayIndex_eq_some (JsNumber.parseUsize_arrayIndex hi)
    exact hs.supply laws (hasInput_of_owIndex hindex) hhex hraw hadd rfl
      ⟨rfl, Or.inl ⟨bytes, rfl, hread⟩⟩
  | kept hno =>
    intro stored hstored
    obtain ⟨raw, hextends, hsupplied⟩ := hs stored hstored
    refine ⟨raw, hextends, fun i witness hwitness => (since_cons _ _).mpr (Or.inr ⟨?_, ?_⟩)⟩
    · intro hadds
      obtain ⟨hok, hadds⟩ := hadds
      obtain ⟨v, hv⟩ := (Entry.succeeded_iff _).mp hok
      rw [(hno v hv).1] at hadds
      cases hadds
    · exact hsupplied i witness hwitness
  | prepared incompleteHex hinput hhex _ =>
    intro stored hstored
    obtain rfl := Option.some.inj hstored
    obtain ⟨raw, hextends, hsupplied⟩ := hs.toIncompleteHex laws hinput hhex
    refine ⟨raw, hextends.setIncompleteHex _, fun i witness hwitness =>
      (since_cons _ _).mpr (Or.inr ⟨?_, hsupplied i witness hwitness⟩)⟩
    intro hadds
    cases hadds.1

theorem run_keeps {options : Option TransferTransactionBuilderOptions} {s₀ s : Builder}
    (hnew : TransferTransactionBuilder.new options = .ok s₀)
    (run : Run (machine (nativeModule crates multiSig) runtime) s₀ log s) :
    Keeps contents witnesses multiSig log s := by
  refine run.invariant (Keeps contents witnesses multiSig) ?_
    fun _ s c _ hs => hs.step laws (Transfer.step s c)
  obtain ⟨_, rfl⟩ := TransferTransactionBuilder.new_eq_ok.mp hnew
  intro stored hstored
  cases hstored

end Laws

/-- The output that an input spends, as the native module reads it: the bytes of
the id, and the index cast. -/
def Reads (input : Input) (pointer : TxoPointer) : Prop :=
  pointer.id.val = bufferFromHex input.prevTxId ∧ pointer.index = castU16 input.prevIndex

/-- The transaction has the accepted inputs, outputs and view keys in their order,
on the chain id of the network; each witness was supplied for it since the last
addition. -/
structure Submission (crates : Crates) (multiSig : MultiSigModule)
    (coinValue : crates.types.Coin → ℕ) (network : NetworkConfig)
    (log : Log JsError Builder (Call (nativeModule crates multiSig)) Value) (tx : Tx crates.types)
    (given : List crates.types.TxInWitness) : Prop where
  chainHexId : network.chainHexId = [tx.attributes.chainHexId]
  inputs : List.Forall₂ Reads (accepted Call.input log) tx.inputs
  outputs : List.Forall₂ (Writes crates coinValue network) (accepted Call.output log) tx.outputs
  viewKeys : List.Forall₂ (fun viewKey (policy : TxAccessPolicy crates.types) =>
    parseViewKey crates viewKey = .ok policy.viewKey) (accepted Call.viewKey log)
      tx.attributes.allowedView
  given_length : given.length = tx.inputs.length
  supplied : ∀ i witness, given[i]? = some witness →
    Since (Supplies network (accepted Call.input log) (crates.transactions.tx.id tx) i witness)
      Adds log

theorem query_outcome {native : NativeModule} (s : Builder) (q : Query) :
    outcome (machine native runtime) s (.query q) = answer native runtime s q := by
  cases hanswer : answer native runtime s q <;> simp [outcome, machine, hanswer]

/-- An export finishes what is stored. -/
theorem stored_of_toHex {s : Builder} {address : Option String} {hex : Buffer}
    (h : toHex (nativeModule crates multiSig) runtime s address = .ok hex) :
    ∃ incompleteHex raw encrypt txAux, s.incompleteHex = some incompleteHex ∧
      incompleteBuilderLinearFeeArgument crates ⟨some incompleteHex, s.nativeFeeConfig⟩ = .ok raw ∧
      obfuscation crates (address.getD defaultTendermintAddress)
        (getRustFeaturesFromEnv runtime.nodeEnv) = .ok encrypt ∧
      crates.core.toTxAux raw encrypt = .ok txAux ∧ hex = txAuxToHex crates txAux := by
  obtain ⟨_, -, h⟩ := bind_eq_ok.mp h
  obtain ⟨_, -, h⟩ := bind_eq_ok.mp h
  obtain ⟨_, -, h⟩ := bind_eq_ok.mp h
  obtain ⟨completed, hcompleted, h⟩ := bind_eq_ok.mp h
  obtain ⟨-, h⟩ := ite_throw_bind_eq_ok.mp h
  obtain ⟨_, -, h⟩ := bind_eq_ok.mp h
  obtain ⟨feeConfig, hfee, h⟩ := bind_eq_ok.mp h
  obtain rfl := ok_unique hfee s.parseFeeConfig_eq
  obtain ⟨raw, hraw, h⟩ := bind_eq_ok.mp h
  obtain ⟨encrypt, hencrypt, h⟩ := bind_eq_ok.mp h
  obtain ⟨txAux, haux, h⟩ := bind_eq_ok.mp h
  cases hstored : s.incompleteHex with
  | none =>
    rw [hstored] at hraw
    obtain ⟨_, hnone, -⟩ := bind_eq_ok.mp hraw
    cases hnone
  | some incompleteHex =>
    rw [hstored] at hraw
    exact ⟨incompleteHex, raw, encrypt, txAux, rfl, hraw, hencrypt, chainNeon_eq_ok.mp haux,
      (Except.ok.inj h).symm⟩

/-- What a transfer exports is the obfuscation of one transaction, the one whose id
the builder shows, with the accepted parts and a witness for each input. -/
theorem transfer_submission
    (laws : RawBuilderLaws crates.core crates.transactions contents witnesses)
    (hfinishes : Finishes crates contents witnesses) (marshal : MarshalLaws crates coinValue)
    {options : Option TransferTransactionBuilderOptions} {s₀ s : Builder}
    {log : Log JsError Builder (Call (nativeModule crates multiSig)) Value}
    (hnew : TransferTransactionBuilder.new options = .ok s₀)
    (run : Run (machine (nativeModule crates multiSig) runtime) s₀ log s)
    {address : Option String} {hex : Buffer}
    (h : outcome (machine (nativeModule crates multiSig) runtime) s (.query (.toHex address)) =
      .ok (.buffer hex)) :
    ∃ tx given encrypt txAux,
      Submission crates multiSig coinValue (initNetwork (options.bind fun options => options.network))
        log tx given ∧
      outcome (machine (nativeModule crates multiSig) runtime) s (.query .txId) =
        .ok (.text (hexEncode (crates.transactions.tx.id tx).val)) ∧
      obfuscation crates (address.getD defaultTendermintAddress)
        (getRustFeaturesFromEnv runtime.nodeEnv) = .ok encrypt ∧
      encrypt (.transferTransaction tx given) = .ok txAux ∧
      hex = crates.transactions.txAux.encode txAux := by
  have hhistory := (History.start hnew).run run
  have hkeeps : Keeps contents witnesses multiSig log s := run_keeps laws hnew run
  have hnetwork : s.network = initNetwork (options.bind fun options => options.network) := by
    obtain ⟨_, rfl⟩ := TransferTransactionBuilder.new_eq_ok.mp hnew
    exact hhistory.network
  rw [query_outcome] at h
  obtain ⟨bytes, hexport, hvalue⟩ := map_eq_ok.mp h
  obtain rfl := Value.buffer.inj hvalue
  obtain ⟨incompleteHex, raw, encrypt, txAux, hstored, hraw, hencrypt, haux, hhex⟩ :=
    stored_of_toHex hexport
  obtain ⟨raw', hextends, hsupplied⟩ := hkeeps incompleteHex hstored
  obtain rfl := ok_unique hextends.decoded hraw
  obtain ⟨tx, given, hinputs, houtputs, hattributes, hid, hgiven, hencrypted⟩ :=
    hfinishes raw' encrypt txAux haux
  have hmarshalled := hextends.marshalled
  refine ⟨tx, given, encrypt, txAux, ⟨?_, ?_, ?_, ?_, ?_, ?_⟩, ?_, hencrypt, hencrypted, hhex⟩
  · rw [hattributes, ← hnetwork]
    exact hmarshalled.chainHexId
  · rw [hinputs, ← hhistory.inputs]
    apply List.forall₂_map_right_iff.mpr
    refine hmarshalled.inputs.imp fun input registered hparsed => ?_
    obtain ⟨parsed, hparsed, hpointer, -⟩ := hparsed
    obtain ⟨pointer, hpointed, hparsed⟩ := bind_eq_ok.mp hparsed
    obtain ⟨txOut, -, hparsed⟩ := bind_eq_ok.mp hparsed
    rw [← hpointer, ← Except.ok.inj hparsed]
    exact ⟨txidFromStr_bytes hpointed, rfl⟩
  · rw [houtputs, ← hhistory.outputs, ← hnetwork]
    have hparsed := (List.forall₂_and_left _ _).mpr
      ⟨hhistory.outputs_accepted, hmarshalled.outputs⟩
    refine hparsed.imp fun output txOut houtput => ?_
    obtain ⟨⟨houtput, hvalid⟩, hparsed⟩ := houtput
    exact writes_of_parsed marshal s.network_accepted (owCoin_of_owOutput houtput) hvalid
      hmarshalled.chainHexId hparsed
  · rw [hattributes, ← hhistory.viewKeys]
    exact hmarshalled.viewKeys
  · have hlengths := congrArg List.length hgiven
    rw [hextends.witnesses_length, List.length_map] at hlengths
    rw [← hlengths, hinputs, List.length_map, hmarshalled.inputs.length_eq]
  · intro i witness hi
    rw [hid, ← hhistory.inputs, ← hnetwork]
    apply hsupplied
    rw [hgiven, List.getElem?_map, hi]
    rfl
  · have htxId := hextends.txId laws
    rw [query_outcome, answer, htxId, hid]
    rfl

end ThalerNodelib.Transfer

namespace ThalerNodelib.Submissions

open Js Native Network KeyPairs ThalerNodelib.Types Runs Crates NativeStaking

/-! Signed builders on the sample crates, and what they export. -/
namespace Sample

def deposit : Log JsError (Deposit.Builder Crates.Sample.module) (Deposit.Call Crates.Sample.module)
    Deposit.Value × Deposit.Builder Crates.Sample.module :=
  execute (Deposit.machine Crates.Sample.module Native.Sample.runtime) Deposit.Sample.cratesStart
    [.addInput ⟨hexEncode (Crates.Sample.privateKey 7), .ofNat 3⟩,
      .signInput (.ofNat 0) (Crates.Sample.keyPair 7)]

def depositHex : Buffer :=
  match outcome (Deposit.machine Crates.Sample.module Native.Sample.runtime) deposit.2
    (.toHex none) with
  | .ok (.buffer hex) => hex
  | _ => []

theorem toHex_deposit : outcome (Deposit.machine Crates.Sample.module Native.Sample.runtime)
    deposit.2 (.toHex none) = .ok (.buffer depositHex) := by decide +kernel

def withdraw : Log JsError WithdrawUnbonded.Builder (WithdrawUnbonded.Call Crates.Sample.module)
    WithdrawUnbonded.Value × WithdrawUnbonded.Builder :=
  execute (WithdrawUnbonded.machine Crates.Sample.module Native.Sample.runtime)
    WithdrawUnbonded.Sample.start
    [.addOutput SignedHex.Sample.output, .sign (Crates.Sample.keyPair 7)]

def withdrawHex : Buffer :=
  match outcome (WithdrawUnbonded.machine Crates.Sample.module Native.Sample.runtime) withdraw.2
    (.toHex none) with
  | .ok (.buffer hex) => hex
  | _ => []

theorem toHex_withdraw :
    outcome (WithdrawUnbonded.machine Crates.Sample.module Native.Sample.runtime) withdraw.2
      (.toHex none) = .ok (.buffer withdrawHex) := by decide +kernel

def transferHex : Buffer :=
  match outcome (Transfer.machine Crates.Sample.module Native.Sample.runtime)
    (Transfer.Sample.signed []).2 (.query (.toHex none)) with
  | .ok (.buffer hex) => hex
  | _ => []

theorem toHex_transfer : outcome (Transfer.machine Crates.Sample.module Native.Sample.runtime)
    (Transfer.Sample.signed []).2 (.query (.toHex none)) = .ok (.buffer transferHex) := by
  decide +kernel

theorem map_some_filterMap {α : Type} {options : List (Option α)}
    (h : options.all Option.isSome = true) : options = (options.filterMap id).map some := by
  induction options with
  | nil => rfl
  | cons option rest ih =>
    rw [List.all_cons, Bool.and_eq_true] at h
    obtain ⟨value, rfl⟩ := Option.isSome_iff_exists.mp h.1
    simpa using ih h.2

theorem finishes : Transfer.Finishes Crates.Sample.crates (fun b => b.1) fun b => b.2 := by
  intro raw encrypt aux h
  refine ⟨Crates.Sample.RawBuilder.tx raw, raw.2.filterMap id, rfl, rfl, rfl, rfl, ?_,
    Crates.Sample.toTxAux_eq_ok h⟩
  apply map_some_filterMap
  by_contra hmissing
  simp [Crates.Sample.crates, Crates.Sample.core, hmissing] at h

end Sample

/-- A deposit of one input that was signed. -/
theorem deposit_submission_signed :
    ∃ tx witnesses txAux,
      Deposit.Submission Crates.Sample.crates Native.Sample.module.multiSig
        Deposit.Sample.cratesOptions Sample.deposit.1 tx witnesses ∧
      outcome (Deposit.machine Crates.Sample.module Native.Sample.runtime) Sample.deposit.2 .txId =
        .ok (.text (hexEncode (Crates.Sample.crates.transactions.depositBondTx.id tx).val)) ∧
      signedTransactionToTxAux Crates.Sample.crates (.depositStakeTransaction tx witnesses)
        defaultTendermintAddress .allDefault = .ok txAux ∧
      Sample.depositHex = Crates.Sample.txAux.encode txAux :=
  Deposit.deposit_submission Crates.Sample.layout_laws.toFormatLaws
    Deposit.Sample.new_cratesOptions (run_execute _ _ _) Sample.toHex_deposit

/-- A withdrawal of one output that was signed. -/
theorem withdraw_submission_signed :
    ∃ tx witness txAux,
      WithdrawUnbonded.Withdraws Crates.Sample.crates Native.Sample.module.multiSig UInt64.toNat
        WithdrawUnbonded.Sample.options Sample.withdraw.1 tx ∧
      WithdrawUnbonded.WitnessedLast Crates.Sample.crates Native.Sample.module.multiSig UInt64.toNat
        WithdrawUnbonded.Sample.options Sample.withdraw.1 tx witness ∧
      outcome (WithdrawUnbonded.machine Crates.Sample.module Native.Sample.runtime)
        Sample.withdraw.2 .txId =
        .ok (.text (hexEncode (Crates.Sample.crates.transactions.withdrawUnbondedTx.id tx).val)) ∧
      signedTransactionToTxAux Crates.Sample.crates (.withdrawUnbondedStakeTransaction tx witness)
        defaultTendermintAddress .allDefault = .ok txAux ∧
      Sample.withdrawHex = Crates.Sample.txAux.encode txAux :=
  WithdrawUnbonded.withdraw_submission Crates.Sample.layout_laws.toFormatLaws
    Crates.Sample.marshal_laws WithdrawUnbonded.Sample.new_options (run_execute _ _ _)
    Sample.toHex_withdraw

/-- A transfer of one input that was signed. -/
theorem transfer_submission_signed :
    ∃ tx given encrypt txAux,
      Transfer.Submission Crates.Sample.crates Native.Sample.module.multiSig UInt64.toNat mainnet
        (Transfer.Sample.signed []).1 tx given ∧
      outcome (Transfer.machine Crates.Sample.module Native.Sample.runtime)
        (Transfer.Sample.signed []).2 (.query .txId) =
        .ok (.text (hexEncode (Crates.Sample.crates.transactions.tx.id tx).val)) ∧
      NativeTransfer.obfuscation Crates.Sample.crates defaultTendermintAddress .allDefault =
        .ok encrypt ∧
      encrypt (.transferTransaction tx given) = .ok txAux ∧
      Sample.transferHex = Crates.Sample.txAux.encode txAux :=
  Transfer.transfer_submission Crates.Sample.raw_builder_laws Sample.finishes
    Crates.Sample.marshal_laws Transfer.Sample.new_options (run_execute _ _ _)
    Sample.toHex_transfer

end ThalerNodelib.Submissions
