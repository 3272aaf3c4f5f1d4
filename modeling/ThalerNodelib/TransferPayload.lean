import ThalerNodelib.TransferSteps

/-!
The incomplete transaction that the builder of transfer transactions stores.
It decodes to the lists of the builder, with a witness or none for each input,
so that the id of the transaction is the same wherever it is computed: from the
lists, from the stored transaction that is signed, and from the exported one.
-/
namespace ThalerNodelib.Transfer

open Js Native Network KeyPairs ThalerNodelib.Types Runs Crates FunctionTypes NativeStaking
  NativeTransfer NativeFromCrates

variable {crates : Crates} {multiSig : MultiSigModule} {runtime : Runtime}

/-- What a raw builder holds is what the native module reads from the lists of
the builder, in order, on the network of its chain id. -/
structure Marshalled (crates : Crates) (s : Builder) (raw : RawContents crates.types) : Prop where
  chainHexId : s.network.chainHexId = [raw.attributes.chainHexId]
  fee : parseLinearFeeConfig crates s.nativeFeeConfig = .ok raw.fee
  inputs : List.Forall₂ (fun input registered => ∃ parsed,
    parseInput crates (parseInputForNative input)
      (networkFromChainHexId raw.attributes.chainHexId) = .ok parsed ∧
    parsed.prevOutput = registered.1 ∧ inputLeaves crates parsed = .ok registered.2)
    s.inputs raw.inputs
  outputs : List.Forall₂ (fun output txOut => parseOutput crates (parseOutputForNative output)
    (networkFromChainHexId raw.attributes.chainHexId) = .ok txOut) s.outputs raw.outputs
  viewKeys : List.Forall₂ (fun viewKey (policy : TxAccessPolicy crates.types) =>
    parseViewKey crates viewKey = .ok policy.viewKey) s.viewKeys raw.attributes.allowedView

/-- The raw builder that the native module makes of the options and of the inputs
with their leaves. -/
def rawBuilder (crates : Crates) (options : LinearFeeBuilderOptions crates)
    (inputs : List ((TxoPointer × TxOut crates.types) × UInt16)) : crates.core.Builder :=
  options.rawTxOptions.outputs.foldl crates.core.addOutput
    (inputs.foldl (fun builder input => crates.core.addInput builder input.1 input.2)
      (crates.core.new ⟨options.rawTxOptions.chainHexId,
        accessPolicies crates options.rawTxOptions.viewKeys⟩ options.feeAlgorithm))

/-- What is built is the raw builder of the lists, serialised. -/
theorem rawBuilder_of_build {s : Builder} {incompleteHex : Buffer}
    (h : s.buildIncompleteHex (nativeModule crates multiSig) = .ok incompleteHex) :
    ∃ parsed registered,
      parseLinearFeeFnCtx crates (s.incompleteOptions s.nativeFeeConfig) = .ok parsed ∧
      registeredInputs crates parsed.rawTxOptions.inputs = .ok registered ∧
      incompleteHex = crates.core.toIncomplete (rawBuilder crates parsed registered) := by
  rw [s.buildIncompleteHex_eq] at h
  obtain ⟨parsed, hparsed, h⟩ := bind_eq_ok.mp h
  obtain ⟨registered, hregistered, h⟩ := bind_eq_ok.mp h
  exact ⟨parsed, registered, hparsed, hregistered, (Except.ok.inj h).symm⟩

section Payload
variable (contents : crates.core.Builder → RawContents crates.types)
  (witnesses : crates.core.Builder → List (Option crates.types.TxInWitness))

/-- An incomplete transaction decodes to the lists of the builder. -/
structure Decodes (s : Builder) (incompleteHex : Buffer) (raw : crates.core.Builder) : Prop where
  decoded : incompleteBuilderLinearFeeArgument crates ⟨some incompleteHex, s.nativeFeeConfig⟩ =
    .ok raw
  marshalled : Marshalled crates s (contents raw)
  witnesses_length : (witnesses raw).length = s.inputs.length

/-- It holds the same as the transaction that would be built now. -/
structure Extends (native : NativeModule) (s : Builder) (incompleteHex : Buffer)
    (raw : crates.core.Builder) : Prop extends Decodes contents witnesses s incompleteHex raw where
  hasInput : s.hasInput = true
  built : ∃ unsigned, s.buildIncompleteHex native = .ok (crates.core.toIncomplete unsigned) ∧
    contents unsigned = contents raw

end Payload

variable {contents : crates.core.Builder → RawContents crates.types}
  {witnesses : crates.core.Builder → List (Option crates.types.TxInWitness)}

theorem Marshalled.setIncompleteHex {s : Builder} {raw : RawContents crates.types}
    (h : Marshalled crates s raw) (incompleteHex : Buffer) :
    Marshalled crates (s.setIncompleteHex incompleteHex) raw :=
  ⟨h.chainHexId, h.fee, h.inputs, h.outputs, h.viewKeys⟩

/-- What the builder stores is not looked at. -/
theorem Extends.setIncompleteHex {native : NativeModule} {s : Builder} {incompleteHex : Buffer}
    {raw : crates.core.Builder} (h : Extends contents witnesses native s incompleteHex raw)
    (stored : Buffer) :
    Extends contents witnesses native (s.setIncompleteHex stored) incompleteHex raw where
  decoded := h.decoded
  marshalled := h.marshalled.setIncompleteHex stored
  witnesses_length := h.witnesses_length
  hasInput := h.hasInput
  built := h.built

section Laws
variable (laws : RawBuilderLaws crates.core crates.transactions contents witnesses)
include laws

theorem argument_toIncomplete {raw : crates.core.Builder} {feeConfig : NativeFeeConfig}
    (h : parseLinearFeeConfig crates feeConfig = .ok (contents raw).fee) :
    incompleteBuilderLinearFeeArgument crates ⟨some (crates.core.toIncomplete raw), feeConfig⟩ =
      .ok raw := by
  unfold incompleteBuilderLinearFeeArgument
  rw [downcastBuffer_some, h]
  simp only [bind, Except.bind]
  rw [laws.fromIncomplete_toIncomplete, chainNeon_ok]

theorem rawBuilder_contents (options : LinearFeeBuilderOptions crates)
    (inputs : List ((TxoPointer × TxOut crates.types) × UInt16)) :
    contents (rawBuilder crates options inputs) =
      ⟨⟨options.rawTxOptions.chainHexId, accessPolicies crates options.rawTxOptions.viewKeys⟩,
        options.feeAlgorithm, inputs, options.rawTxOptions.outputs⟩ := by
  rw [rawBuilder, laws.addOutputs_contents, laws.addInputs_contents, laws.new_contents,
    List.nil_append, List.nil_append]

theorem rawBuilder_witnesses (options : LinearFeeBuilderOptions crates)
    (inputs : List ((TxoPointer × TxOut crates.types) × UInt16)) :
    witnesses (rawBuilder crates options inputs) = List.replicate inputs.length none := by
  rw [rawBuilder, laws.addOutputs_witnesses, laws.addInputs_witnesses, laws.new_witnesses,
    List.nil_append]

/-- The raw builder of the lists is what its serialisation decodes to. -/
theorem rawBuilder_decodes {s : Builder} {parsed : LinearFeeBuilderOptions crates}
    {registered : List ((TxoPointer × TxOut crates.types) × UInt16)}
    (hparsed : parseLinearFeeFnCtx crates (s.incompleteOptions s.nativeFeeConfig) = .ok parsed)
    (hregistered : registeredInputs crates parsed.rawTxOptions.inputs = .ok registered) :
    Decodes contents witnesses s (crates.core.toIncomplete (rawBuilder crates parsed registered))
      (rawBuilder crates parsed registered) := by
  obtain ⟨hchain, hinputs, houtputs, hviewKeys, hfee⟩ := (parseLinearFeeFnCtx_eq_ok crates).mp hparsed
  have hleaves := (mapM_eq_ok _ _ _).mp hregistered
  have hcontents := rawBuilder_contents laws parsed registered
  have hlength : registered.length = s.inputs.length := by
    rw [← hleaves.length_eq, ← hinputs.length_eq]
    exact List.length_map ..
  refine ⟨?_, ?_, ?_⟩
  · apply argument_toIncomplete laws
    rw [hcontents]
    exact hfee
  · rw [hcontents]
    refine ⟨hchain, hfee, ?_, List.forall₂_map_left_iff.mp houtputs, ?_⟩
    · refine forall₂_trans ?_ (List.forall₂_map_left_iff.mp hinputs) hleaves
      intro input p registration hinput hregister
      obtain ⟨count, hcount, hregister⟩ := bind_eq_ok.mp hregister
      obtain rfl := Except.ok.inj hregister
      exact ⟨p, hinput, rfl, hcount⟩
    · exact List.forall₂_map_right_iff.mpr hviewKeys
  · rw [rawBuilder_witnesses laws, List.length_replicate, hlength]

/-- The transaction without witnesses decodes to the lists of the builder. -/
theorem built_decodes {s : Builder} {incompleteHex : Buffer}
    (h : s.buildIncompleteHex (nativeModule crates multiSig) = .ok incompleteHex) :
    ∃ raw, incompleteHex = crates.core.toIncomplete raw ∧
      Decodes contents witnesses s incompleteHex raw ∧
      witnesses raw = List.replicate s.inputs.length none := by
  obtain ⟨parsed, registered, hparsed, hregistered, rfl⟩ := rawBuilder_of_build h
  have hdecodes := rawBuilder_decodes laws hparsed hregistered
  have hwitnesses := rawBuilder_witnesses laws parsed registered
  have hlength := hdecodes.witnesses_length
  rw [hwitnesses, List.length_replicate] at hlength
  exact ⟨_, rfl, hdecodes, by rw [hwitnesses, hlength]⟩

/-- A witness added to the decoded transaction leaves all else as it is. -/
theorem Extends.addWitness {native : NativeModule} {s : Builder} {incompleteHex : Buffer}
    {raw extended : crates.core.Builder} {i : ℕ} {witness : crates.types.TxInWitness}
    (h : Extends contents witnesses native s incompleteHex raw)
    (hadd : crates.core.addWitness raw i witness = .ok extended) :
    Extends contents witnesses native s (crates.core.toIncomplete extended) extended ∧
      (witnesses extended)[i]? = some (some witness) := by
  have hcontents := laws.addWitness_contents _ _ _ _ hadd
  obtain ⟨hi, hwitnesses⟩ := laws.addWitness_witnesses _ _ _ _ hadd
  obtain ⟨unsigned, hbuilt, hsame⟩ := h.built
  refine ⟨⟨⟨?_, ?_, ?_⟩, h.hasInput, unsigned, hbuilt, ?_⟩, ?_⟩
  · apply argument_toIncomplete laws
    rw [hcontents]
    exact h.marshalled.fee
  · rw [hcontents]
    exact h.marshalled
  · rw [hwitnesses, List.length_set]
    exact h.witnesses_length
  · rw [hcontents]
    exact hsame
  · rw [hwitnesses]
    exact List.getElem?_set_self hi

/-- The id that `txId` computes from the lists is that of the decoded transaction. -/
theorem Extends.txId {s : Builder} {incompleteHex : Buffer} {raw : crates.core.Builder}
    (h : Extends contents witnesses (nativeModule crates multiSig) s incompleteHex raw) :
    s.txId (nativeModule crates multiSig) = .ok (hexEncode (crates.core.txId raw).val) := by
  obtain ⟨unsigned, hbuilt, hsame⟩ := h.built
  have hfee : parseLinearFeeConfig crates s.nativeFeeConfig = .ok (contents unsigned).fee := by
    rw [hsame]
    exact h.marshalled.fee
  rw [s.txId_eq _ h.hasInput, hbuilt]
  change txIdLinearFee crates _ = _
  unfold txIdLinearFee
  rw [argument_toIncomplete laws hfee, ← laws.txId_contents _ _ hsame]
  rfl

end Laws

/-- The signature of an id under a key pair, as a witness of an input. -/
def Signs (crates : Crates) (keyPair : NativeKeyPair) (id : H256)
    (witness : crates.types.TxInWitness) : Prop :=
  ∃ privateKey publicKey signer, parseKeyPair crates keyPair = .ok (privateKey, publicKey) ∧
    KeyPairSigner.new crates privateKey publicKey = .ok signer ∧
    signer.schnorrSignTxid crates id.val = .ok witness

theorem signInputLinearFee_eq_ok {incomplete : IncompleteBuilder} {index : JsNumber}
    {keyPair : NativeKeyPair} {updated : Buffer}
    (h : signInputLinearFee crates incomplete index keyPair = .ok updated) :
    ∃ raw i witness extended, incompleteBuilderLinearFeeArgument crates incomplete = .ok raw ∧
      index.arrayIndex = some i ∧ Signs crates keyPair (crates.core.txId raw) witness ∧
      crates.core.addWitness raw i witness = .ok extended ∧
      updated = crates.core.toIncomplete extended := by
  obtain ⟨raw, hraw, h⟩ := bind_eq_ok.mp h
  obtain ⟨⟨privateKey, publicKey⟩, hkeys, h⟩ := bind_eq_ok.mp h
  obtain ⟨i, hi, h⟩ := bind_eq_ok.mp h
  obtain ⟨signer, hsigner, h⟩ := bind_eq_ok.mp h
  obtain ⟨witness, hwitness, h⟩ := bind_eq_ok.mp h
  obtain ⟨extended, hadd, h⟩ := bind_eq_ok.mp h
  exact ⟨raw, i, witness, extended, hraw, JsNumber.parseUsize_arrayIndex (chainNeon_eq_ok.mp hi),
    ⟨privateKey, publicKey, signer, hkeys, chainNeon_eq_ok.mp hsigner,
      chainNeon_eq_ok.mp hwitness⟩, chainNeon_eq_ok.mp hadd, (Except.ok.inj h).symm⟩

theorem addInputWitnessLinearFee_eq_ok {incomplete : IncompleteBuilder} {index : JsNumber}
    {bytes updated : Buffer} :
    addInputWitnessLinearFee crates incomplete index bytes = .ok updated ↔
      ∃ raw i witness extended, incompleteBuilderLinearFeeArgument crates incomplete = .ok raw ∧
        index.parseUsize = .ok i ∧ crates.transactions.txInWitness.read bytes = .ok witness ∧
        crates.core.addWitness raw i witness = .ok extended ∧
        updated = crates.core.toIncomplete extended := by
  constructor
  · intro h
    obtain ⟨raw, hraw, h⟩ := bind_eq_ok.mp h
    obtain ⟨witness, hwitness, h⟩ := bind_eq_ok.mp h
    obtain ⟨i, hi, h⟩ := bind_eq_ok.mp h
    obtain ⟨extended, hadd, h⟩ := bind_eq_ok.mp h
    exact ⟨raw, i, witness, extended, hraw, chainNeon_eq_ok.mp hi, chainNeon_eq_ok.mp hwitness,
      chainNeon_eq_ok.mp hadd, (Except.ok.inj h).symm⟩
  · intro h
    obtain ⟨raw, i, witness, extended, hraw, hi, hwitness, hadd, rfl⟩ := h
    exact bind_eq_ok.mpr ⟨raw, hraw, bind_eq_ok.mpr ⟨witness, chainNeon_eq_ok.mpr hwitness,
      bind_eq_ok.mpr ⟨i, chainNeon_eq_ok.mpr hi,
        bind_eq_ok.mpr ⟨extended, chainNeon_eq_ok.mpr hadd, rfl⟩⟩⟩⟩

/-- The stored transaction holds what would be built now. -/
def Coherent (contents : crates.core.Builder → RawContents crates.types)
    (witnesses : crates.core.Builder → List (Option crates.types.TxInWitness))
    (native : NativeModule) (s : Builder) : Prop :=
  ∀ incompleteHex, s.incompleteHex = some incompleteHex →
    ∃ raw, Extends contents witnesses native s incompleteHex raw

theorem Coherent.store {native : NativeModule} {s : Builder} {incompleteHex : Buffer}
    {raw : crates.core.Builder} (h : Extends contents witnesses native s incompleteHex raw) :
    Coherent contents witnesses native (s.setIncompleteHex incompleteHex) := by
  intro stored hstored
  obtain rfl : incompleteHex = stored := Option.some.inj hstored
  exact ⟨raw, h.setIncompleteHex incompleteHex⟩

/-- What an export finishes is the stored transaction. -/
theorem Coherent.toHex {s : Builder} {address : Option String} {hex : Buffer}
    (hs : Coherent contents witnesses (nativeModule crates multiSig) s)
    (h : toHex (nativeModule crates multiSig) runtime s address = .ok hex) :
    ∃ incompleteHex raw encrypt txAux,
      Extends contents witnesses (nativeModule crates multiSig) s incompleteHex raw ∧
      obfuscation crates (address.getD defaultTendermintAddress)
        (getRustFeaturesFromEnv runtime.nodeEnv) = .ok encrypt ∧
      crates.core.toTxAux raw encrypt = .ok txAux ∧ hex = txAuxToHex crates txAux := by
  obtain ⟨_, -, h⟩ := bind_eq_ok.mp h
  obtain ⟨_, -, h⟩ := bind_eq_ok.mp h
  obtain ⟨_, -, h⟩ := bind_eq_ok.mp h
  obtain ⟨completed, hcompleted, h⟩ := bind_eq_ok.mp h
  cases completed with
  | false => cases h
  | true =>
    obtain ⟨_, -, h⟩ := bind_eq_ok.mp h
    obtain ⟨feeConfig, hfee, h⟩ := bind_eq_ok.mp h
    obtain rfl := ok_unique hfee s.parseFeeConfig_eq
    cases hstored : s.incompleteHex with
    | none =>
      rw [TransferTransactionBuilder.isCompleted, hstored] at hcompleted
      cases hcompleted
    | some incompleteHex =>
      obtain ⟨raw, hextends⟩ := hs incompleteHex hstored
      rw [hstored] at h
      obtain ⟨raw', hraw, h⟩ := bind_eq_ok.mp h
      obtain rfl : raw = raw' := ok_unique hextends.decoded hraw
      obtain ⟨encrypt, hencrypt, h⟩ := bind_eq_ok.mp h
      obtain ⟨txAux, haux, h⟩ := bind_eq_ok.mp h
      exact ⟨incompleteHex, raw, encrypt, txAux, hextends, hencrypt, chainNeon_eq_ok.mp haux,
        (Except.ok.inj h).symm⟩

section Laws
variable (laws : RawBuilderLaws crates.core crates.transactions contents witnesses)
include laws

/-- What the signing methods start from, whether it was stored or is built. -/
theorem Coherent.toIncompleteHex {s : Builder} {incompleteHex : Buffer}
    (hs : Coherent contents witnesses (nativeModule crates multiSig) s)
    (hinput : s.hasInput = true)
    (h : s.toIncompleteHex (nativeModule crates multiSig) = .ok incompleteHex) :
    ∃ raw, Extends contents witnesses (nativeModule crates multiSig) s incompleteHex raw := by
  unfold TransferTransactionBuilder.toIncompleteHex at h
  cases hstored : s.incompleteHex with
  | some stored =>
    rw [hstored] at h
    obtain rfl := Except.ok.inj h
    exact hs stored hstored
  | none =>
    rw [hstored] at h
    obtain ⟨raw, rfl, hdecodes, -⟩ := built_decodes laws h
    exact ⟨raw, hdecodes, hinput, raw, h, rfl⟩

/-- A successful `signInput` stores the signature of the id that `txId` tells. -/
theorem signInput_signs {s t : Builder} {index : JsNumber}
    {keyPair : KeyPair (nativeModule crates multiSig)} {v : Value}
    (hs : Coherent contents witnesses (nativeModule crates multiSig) s)
    (h : Step (nativeModule crates multiSig) s (.signInput index keyPair) (.ok v) t) :
    ∃ id incompleteHex raw i witness,
      s.txId (nativeModule crates multiSig) = .ok (hexEncode id.val) ∧
      Signs crates keyPair.toObject id witness ∧ t.incompleteHex = some incompleteHex ∧
      Extends contents witnesses (nativeModule crates multiSig) s incompleteHex raw ∧
      index.arrayIndex = some i ∧ (witnesses raw)[i]? = some (some witness) := by
  cases h with
  | signInput _ _ incompleteHex updated hverify hhex hsign =>
    have hinput := hasInput_of_owIndex (owIndex_of_verifySignable hverify)
    obtain ⟨raw, hextends⟩ := hs.toIncompleteHex laws hinput hhex
    obtain ⟨raw', i, witness, extended, hraw, hi, hsigns, hadd, rfl⟩ :=
      signInputLinearFee_eq_ok hsign
    obtain rfl : raw = raw' := ok_unique hextends.decoded hraw
    obtain ⟨hstored, hwitness⟩ := hextends.addWitness laws hadd
    exact ⟨crates.core.txId raw, _, extended, i, witness, hextends.txId laws, hsigns, rfl,
      hstored, hi, hwitness⟩
  | kept hno => cases (hno v rfl).2

theorem Step.payload {s t : Builder} {c : Call (nativeModule crates multiSig)}
    {r : Except JsError Value} (hs : Coherent contents witnesses (nativeModule crates multiSig) s)
    (h : Step (nativeModule crates multiSig) s c r t) :
    Coherent contents witnesses (nativeModule crates multiSig) t := by
  cases h with
  | addInput input _ _ => intro hex hhex; cases hhex
  | addOutput output _ _ => intro hex hhex; cases hhex
  | addViewKey viewKey _ => intro hex hhex; cases hhex
  | signInput index keyPair incompleteHex updated hverify hhex hsign =>
    intro stored hstored
    obtain ⟨_, _, raw, _, _, _, _, hhex, hextends, _, _⟩ :=
      signInput_signs laws hs (.signInput index keyPair incompleteHex updated hverify hhex hsign)
    obtain rfl := Option.some.inj (hhex.symm.trans hstored)
    exact ⟨raw, hextends.setIncompleteHex _⟩
  | addWitness index witness incompleteHex updated hindex hhex hadd =>
    obtain ⟨raw, hextends⟩ := hs.toIncompleteHex laws (hasInput_of_owIndex hindex) hhex
    obtain ⟨raw', i, w, extended, hraw, -, -, hadd, rfl⟩ :=
      addInputWitnessLinearFee_eq_ok.mp hadd
    obtain rfl : raw = raw' := ok_unique hextends.decoded hraw
    exact .store (hextends.addWitness laws hadd).1
  | kept _ => exact hs
  | prepared incompleteHex hinput hhex _ =>
    obtain ⟨raw, hextends⟩ := hs.toIncompleteHex laws hinput hhex
    exact .store hextends

theorem run_payload {options : Option TransferTransactionBuilderOptions} {s₀ s : Builder}
    {log : Log JsError Builder (Call (nativeModule crates multiSig)) Value}
    (hnew : TransferTransactionBuilder.new options = .ok s₀)
    (run : Run (machine (nativeModule crates multiSig) runtime) s₀ log s) :
    Coherent contents witnesses (nativeModule crates multiSig) s := by
  refine run.state_invariant (Coherent contents witnesses (nativeModule crates multiSig)) ?_
    fun s c hs => Step.payload laws hs (Transfer.step s c)
  obtain ⟨_, rfl⟩ := TransferTransactionBuilder.new_eq_ok.mp hnew
  intro incompleteHex hstored
  cases hstored

/-- The exported transaction has the id that `txId` tells. -/
theorem toHex_emits {s : Builder} {address : Option String} {hex : Buffer}
    (hs : Coherent contents witnesses (nativeModule crates multiSig) s)
    (h : toHex (nativeModule crates multiSig) runtime s address = .ok hex) :
    ∃ tx witness encrypt txAux,
      s.txId (nativeModule crates multiSig) =
        .ok (hexEncode (crates.transactions.tx.id tx).val) ∧
      obfuscation crates (address.getD defaultTendermintAddress)
        (getRustFeaturesFromEnv runtime.nodeEnv) = .ok encrypt ∧
      encrypt (.transferTransaction tx witness) = .ok txAux ∧ hex = txAuxToHex crates txAux := by
  obtain ⟨incompleteHex, raw, encrypt, txAux, hextends, hencrypt, haux, hhex⟩ := hs.toHex h
  obtain ⟨tx, witness, hid, haux⟩ := laws.toTxAux_encrypts _ _ _ haux
  refine ⟨tx, witness, encrypt, txAux, ?_, hencrypt, haux, hhex⟩
  rw [hid]
  exact hextends.txId laws

end Laws

/-- Calls that add nothing leave the id as it is. -/
theorem Step.txId {native : NativeModule} {s t : Builder} {c : Call native}
    {r : Except JsError Value} (h : Step native s c r t) (hc : c.isAddition = false) :
    t.txId native = s.txId native := by
  cases h with
  | addInput input _ _ => cases hc
  | addOutput output _ _ => cases hc
  | addViewKey viewKey _ => cases hc
  | signInput index keyPair incompleteHex updated _ _ _ => rfl
  | addWitness index witness incompleteHex updated _ _ _ => rfl
  | kept _ => rfl
  | prepared incompleteHex _ _ _ => rfl

theorem execute_txId {native : NativeModule} (s : Builder) (calls : List (Call native))
    (hcalls : ∀ c ∈ calls, c.isAddition = false) :
    (execute (machine native runtime) s calls).2.txId native = s.txId native := by
  induction calls generalizing s with
  | nil => rfl
  | cons c rest ih =>
    rw [execute_cons, ih _ fun d hd => hcalls d (List.mem_cons_of_mem _ hd)]
    exact (step s c).txId (hcalls c (List.mem_cons_self ..))

/-- In every reachable state the lists are those of the accepted calls, the
stored transaction decodes to them, and `txId`, a successful `signInput`, the
stored and the exported transaction have one id, which no call changes that
adds nothing. -/
theorem payload_coherent
    (laws : RawBuilderLaws crates.core crates.transactions contents witnesses)
    {options : Option TransferTransactionBuilderOptions} {s₀ s : Builder}
    {log : Log JsError Builder (Call (nativeModule crates multiSig)) Value}
    (hnew : TransferTransactionBuilder.new options = .ok s₀)
    (run : Run (machine (nativeModule crates multiSig) runtime) s₀ log s) :
    History (nativeModule crates multiSig) s₀ log s ∧
    (∀ incompleteHex, s.incompleteHex = some incompleteHex → ∃ raw,
      Decodes contents witnesses s incompleteHex raw ∧
      s.txId (nativeModule crates multiSig) = .ok (hexEncode (crates.core.txId raw).val)) ∧
    (∀ index keyPair v,
      outcome (machine (nativeModule crates multiSig) runtime) s (.signInput index keyPair) = .ok v →
      ∃ id incompleteHex raw i witness,
        s.txId (nativeModule crates multiSig) = .ok (hexEncode id.val) ∧
        Signs crates keyPair.toObject id witness ∧
        (next (machine (nativeModule crates multiSig) runtime) s
          (.signInput index keyPair)).incompleteHex = some incompleteHex ∧
        Decodes contents witnesses s incompleteHex raw ∧
        index.arrayIndex = some i ∧ (witnesses raw)[i]? = some (some witness)) ∧
    (∀ address hex, toHex (nativeModule crates multiSig) runtime s address = .ok hex →
      ∃ tx witness encrypt txAux,
        s.txId (nativeModule crates multiSig) =
          .ok (hexEncode (crates.transactions.tx.id tx).val) ∧
        obfuscation crates (address.getD defaultTendermintAddress)
          (getRustFeaturesFromEnv runtime.nodeEnv) = .ok encrypt ∧
        encrypt (.transferTransaction tx witness) = .ok txAux ∧ hex = txAuxToHex crates txAux) ∧
    ∀ calls : List (Call (nativeModule crates multiSig)),
      (∀ c ∈ calls, c.isAddition = false) →
      (execute (machine (nativeModule crates multiSig) runtime) s calls).2.txId
        (nativeModule crates multiSig) = s.txId (nativeModule crates multiSig) := by
  have hs := run_payload laws hnew run
  refine ⟨(History.start hnew).run run, ?_, ?_, ?_, execute_txId s⟩
  · intro incompleteHex hstored
    obtain ⟨raw, hextends⟩ := hs incompleteHex hstored
    exact ⟨raw, hextends.toDecodes, hextends.txId laws⟩
  · intro index keyPair v hv
    obtain ⟨id, incompleteHex, raw, i, witness, hid, hsigns, hstored, hextends, hi, hwitness⟩ :=
      signInput_signs laws hs (step_of_outcome hv)
    exact ⟨id, incompleteHex, raw, i, witness, hid, hsigns, hstored, hextends.toDecodes, hi,
      hwitness⟩
  · intro address hex h
    exact toHex_emits laws hs h

/-- A builder with one input and one output, none of it signed. -/
def Sample.unsigned : Builder :=
  (Sample.run [.addInput (Sample.input 7 1 1), .addOutput Sample.output]).2

theorem payload_coherent_after_signInput :
    ∃ id incompleteHex raw witness,
      Sample.unsigned.txId Crates.Sample.module = .ok (hexEncode id.val) ∧
      Signs Crates.Sample.crates (Crates.Sample.keyPair 7).toObject id witness ∧
      (next (machine Crates.Sample.module Native.Sample.runtime) Sample.unsigned
        (.signInput (.ofNat 0) (Crates.Sample.keyPair 7))).incompleteHex = some incompleteHex ∧
      incompleteBuilderLinearFeeArgument Crates.Sample.crates
        ⟨some incompleteHex, Sample.unsigned.nativeFeeConfig⟩ = .ok raw ∧
      raw.2[0]? = some (some witness) := by
  have hcoherent := payload_coherent Crates.Sample.raw_builder_laws Sample.new_options
    (run_execute (machine Crates.Sample.module Native.Sample.runtime) Sample.start
      [.addInput (Sample.input 7 1 1), .addOutput Sample.output])
  obtain ⟨-, -, hsigned, -⟩ := hcoherent
  obtain ⟨id, incompleteHex, raw, i, witness, hid, hsigns, hstored, hdecodes, hi, hwitness⟩ :=
    hsigned (.ofNat 0) (Crates.Sample.keyPair 7) .undefined (by decide +kernel)
  obtain rfl : 0 = i := Option.some.inj ((JsNumber.arrayIndex_ofNat 0).symm.trans hi)
  exact ⟨id, incompleteHex, raw, witness, hid, hsigns, hstored, hdecodes.decoded, hwitness⟩

end ThalerNodelib.Transfer
