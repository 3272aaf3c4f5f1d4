import ThalerNodelib.CompletedExport
import ThalerNodelib.LeafCounts
import ThalerNodelib.OutputCounts
import ThalerNodelib.Submissions

/-!
No builder gets stuck. From any state that a run reaches, whatever was signed
before, the signatures still needed can be given one after the other in any
order, each succeeds, and then the builder is completed.
-/
namespace ThalerNodelib.Transfer

open Js Native Network KeyPairs ThalerNodelib.Types Runs Crates FunctionTypes NativeExport
  NativeStaking NativeTransfer NativeFromCrates NetworkIdentification

variable {crates : Crates} {multiSig : MultiSigModule} {runtime : Runtime}
  {coinValue : crates.types.Coin → ℕ}
  {contents : crates.core.Builder → RawContents crates.types}
  {witnesses : crates.core.Builder → List (Option crates.types.TxInWitness)}

/-- A key pair with a private key signs every id. -/
theorem signs_isOk (laws : SigningLaws crates.keys) (id : H256)
    {keyPair : KeyPair (nativeModule crates multiSig)} (h : keyPair.hasPrivateKey = true) :
    ∃ witness, Signs crates keyPair.toObject id witness := by
  obtain ⟨secret, privateKey, -, -, hkeys⟩ := parseKeyPair_eq_ok laws h
  obtain ⟨signer, hsigner, -⟩ := signer_isOk laws privateKey (crates.keys.publicKeyFrom privateKey)
  obtain ⟨message, hmessage⟩ := laws.message id.val id.property
  have hwitness : ∃ witness, signer.schnorrSignTxid crates id.val = .ok witness := by
    simp only [KeyPairSigner.schnorrSignTxid, KeyPairSigner.schnorrSign,
      KeyPairSigner.messageToSign, hmessage]
    exact ⟨_, rfl⟩
  obtain ⟨witness, hwitness⟩ := hwitness
  exact ⟨witness, privateKey, _, signer, hkeys, hsigner, hwitness⟩

/-- `SINGLE_SIGN_ADDRESS`. -/
def singleSignAddress : InputAddressParams where
  requiredSigners := .ofNat 1
  totalSigners := .ofNat 1

/-- The input is at the address that `transfer` gives the key pair on the network. -/
structure OwnedBy {native : NativeModule} (network : NetworkConfig) (keyPair : KeyPair native)
    (input : Input) : Prop where
  addressParams : input.addressParams = singleSignAddress
  privateKey : keyPair.hasPrivateKey = true
  address : transfer native keyPair network = .ok input.prevOutput.address

/-- An input of one signer has one leaf. -/
theorem inputLeaves_singleSign {parsed : RawTransactionOptionsInput crates}
    (h : parsed.addressParams = parseAddressParams singleSignAddress) :
    inputLeaves crates parsed = .ok 1 := by
  have hone : (JsNumber.ofNat 1).toUnsigned 64 = 1 := by
    rw [JsNumber.toUnsigned_ofNat]
    omega
  rw [inputLeaves_eq_ok, h, parseAddressParams, singleSignAddress, hone]
  decide

/-- An accepted input of one signer is parsed and has its leaves. -/
theorem parseInput_progress (marshal : MarshalLaws crates coinValue) {network : NetworkConfig}
    {chainHexId : UInt8} (hchain : chainHexIdFromVec network.chainHexId = .ok chainHexId)
    (hname : (networkFromChainHexId chainHexId).name = network.name) {input : Input}
    (haccepted : owInput (nativeModule crates multiSig) input = .ok none)
    (hvalid : isTransferAddressValid crates input.prevOutput.address network.name = .ok true)
    (hsingle : input.addressParams = singleSignAddress) :
    ∃ parsed, parseInput crates (parseInputForNative input) (networkFromChainHexId chainHexId) =
      .ok parsed ∧ inputLeaves crates parsed = .ok 1 := by
  obtain ⟨id, -, chainHexId', parsed, hchain', hparsed, -⟩ :=
    Marshalling.spends_of_accepted marshal ⟨chainHexId, hchain, hname⟩ haccepted hvalid
  obtain rfl := ok_unique hchain hchain'
  refine ⟨parsed, hparsed, inputLeaves_singleSign ?_⟩
  rw [parseInput_addressParams hparsed, ← hsingle]
  rfl

/-- The transaction of accepted parts is built, on a network that is identified
and whose fee is read. -/
theorem buildIncompleteHex_progress (marshal : MarshalLaws crates coinValue) {s₀ s : Builder}
    {log : Log JsError Builder (Call (nativeModule crates multiSig)) Value}
    (hs : History (nativeModule crates multiSig) s₀ log s) (hidentified : Identified s.network)
    (hfee : ∃ fee, parseLinearFeeConfig crates s.nativeFeeConfig = .ok fee)
    (hsingle : ∀ input ∈ s.inputs, input.addressParams = singleSignAddress) :
    ∃ incompleteHex, s.buildIncompleteHex (nativeModule crates multiSig) = .ok incompleteHex := by
  obtain ⟨chainHexId, hchain, hname⟩ := hidentified
  obtain ⟨fee, hfee⟩ := hfee
  have hparse : ∀ input ∈ s.inputs, ∃ parsed, parseInput crates (parseInputForNative input)
      (networkFromChainHexId chainHexId) = .ok parsed ∧ inputLeaves crates parsed = .ok 1 := by
    intro input hinput
    obtain ⟨haccepted, hvalid⟩ := hs.inputs_accepted input hinput
    exact parseInput_progress marshal hchain hname haccepted hvalid (hsingle input hinput)
  obtain ⟨inputs, hinputs⟩ : ∃ inputs, (s.inputs.map parseInputForNative).mapM
      (fun input => parseInput crates input (networkFromChainHexId chainHexId)) = .ok inputs := by
    refine mapM_isOk (List.forall_mem_map.mpr fun input hinput => ?_)
    obtain ⟨parsed, hparsed, -⟩ := hparse input hinput
    exact ⟨parsed, hparsed⟩
  obtain ⟨outputs, houtputs⟩ : ∃ outputs, (s.outputs.map parseOutputForNative).mapM
      (fun output => parseOutput crates output (networkFromChainHexId chainHexId)) =
        .ok outputs := by
    refine mapM_isOk (List.forall_mem_map.mpr fun output houtput => ?_)
    obtain ⟨haccepted, hvalid⟩ := hs.outputs_accepted output houtput
    obtain ⟨chainHexId', address, hchain', haddress⟩ :=
      Identified.addressDecodes ⟨chainHexId, hchain, hname⟩ hvalid
    obtain rfl := ok_unique hchain hchain'
    obtain ⟨value, hparsed, -⟩ := Marshalling.parseOutput_eq marshal
      (owCoin_of_owOutput haccepted) (chainNeon_eq_ok.mp haddress)
    exact ⟨_, hparsed⟩
  obtain ⟨viewKeys, hviewKeys⟩ : ∃ viewKeys,
      s.viewKeys.mapM (parseViewKey crates) = .ok viewKeys := by
    refine mapM_isOk fun viewKey hmem => ?_
    obtain ⟨valid, hvalid, hcheck⟩ := bind_eq_ok.mp (hs.viewKeys_accepted viewKey hmem)
    obtain rfl := (check_eq_none _ _).mp (Except.ok.inj hcheck)
    obtain ⟨publicKey, hpublic⟩ := (isOk_iff _).mp (Except.ok.inj hvalid)
    exact ⟨publicKey, chainNeon_eq_ok.mpr hpublic⟩
  have hparsed : parseLinearFeeFnCtx crates (s.incompleteOptions s.nativeFeeConfig) =
      .ok ⟨⟨inputs, outputs, viewKeys, chainHexId⟩, fee⟩ :=
    (parseLinearFeeFnCtx_eq_ok crates).mpr ⟨chainHexIdFromVec_eq_ok.mp hchain,
      (mapM_eq_ok _ _ _).mp hinputs, (mapM_eq_ok _ _ _).mp houtputs,
      (mapM_eq_ok _ _ _).mp hviewKeys, hfee⟩
  obtain ⟨registered, hregistered⟩ : ∃ registered, registeredInputs crates inputs =
      .ok registered := by
    refine mapM_isOk fun parsed hmem => ?_
    obtain ⟨nativeInput, hnative, hparsed⟩ := exists_of_mem_mapM hinputs hmem
    obtain ⟨input, hinput, rfl⟩ := List.mem_map.mp hnative
    obtain ⟨parsed', hparsed', hleaves⟩ := hparse input hinput
    obtain rfl := ok_unique hparsed hparsed'
    exact ⟨_, bind_eq_ok.mpr ⟨1, hleaves, rfl⟩⟩
  rw [s.buildIncompleteHex_eq]
  exact ⟨_, bind_eq_ok.mpr ⟨_, hparsed, bind_eq_ok.mpr ⟨registered, hregistered, rfl⟩⟩⟩

/-- The owner of an input passes the checks of `signInput`. -/
theorem OwnedBy.verifySignable {native : NativeModule} {s : Builder} {i : ℕ} {input : Input}
    (hi : s.inputs[i]? = some input) {keyPair : KeyPair native}
    (h : OwnedBy s.network keyPair input) :
    verifySignable native s (.ofNat i) keyPair = .ok () := by
  obtain ⟨hlt, -⟩ := List.getElem?_eq_some_iff.mp hi
  have hindex : s.owIndex (.ofNat i) = none := by
    rw [TransferTransactionBuilder.owIndex, check_eq_none, JsNumber.ofNat_le_ofNat,
      JsNumber.ofNat_lt_ofNat]
    simp only [Nat.zero_le, decide_true, Bool.and_true, Bool.and_eq_true, decide_eq_true_eq]
    exact ⟨rfl, hlt⟩
  have hinputAt : s.inputAt (.ofNat i) = some input := by
    rw [TransferTransactionBuilder.inputAt, JsNumber.arrayIndex_ofNat, Option.bind_some, hi]
  unfold Transfer.verifySignable
  rw [hindex, h.privateKey, h.address]
  simp only [hinputAt, ow_none, bind, Except.bind, Bool.not_true, if_true]
  rfl

section Signing
variable (laws : RawBuilderLaws crates.core crates.transactions contents witnesses)
  (hadds : ∀ raw i witness, i < (witnesses raw).length →
    ∃ extended, crates.core.addWitness raw i witness = .ok extended)
  (signing : SigningLaws crates.keys)
include laws hadds signing

/-- The owner of an input signs it, whatever was signed before. -/
theorem signInput_progress {s : Builder}
    (hs : Coherent contents witnesses (nativeModule crates multiSig) s)
    (hbuilds : ∃ incompleteHex, s.buildIncompleteHex (nativeModule crates multiSig) =
      .ok incompleteHex) (hlength : s.inputs.length < 2 ^ 32) {i : ℕ} {input : Input}
    (hi : s.inputs[i]? = some input) {keyPair : KeyPair (nativeModule crates multiSig)}
    (howned : OwnedBy s.network keyPair input) :
    ∃ v, outcome (machine (nativeModule crates multiSig) runtime) s
      (.signInput (.ofNat i) keyPair) = .ok v := by
  have hverify := howned.verifySignable hi
  have hinput := hasInput_of_owIndex (owIndex_of_verifySignable hverify)
  obtain ⟨hlt, -⟩ := List.getElem?_eq_some_iff.mp hi
  obtain ⟨incompleteHex, hhex⟩ : ∃ incompleteHex,
      s.toIncompleteHex (nativeModule crates multiSig) = .ok incompleteHex := by
    unfold TransferTransactionBuilder.toIncompleteHex
    cases s.incompleteHex with
    | none => exact hbuilds
    | some stored => exact ⟨stored, rfl⟩
  obtain ⟨raw, hextends⟩ := hs.toIncompleteHex laws hinput hhex
  obtain ⟨witness, privateKey, publicKey, signer, hkeys, hsigner, hwitness⟩ :=
    signs_isOk signing (crates.core.txId raw) howned.privateKey
  obtain ⟨extended, hadd⟩ := hadds raw i witness (by rwa [hextends.witnesses_length])
  have hsign : (nativeModule crates multiSig).transferTransaction.signInputLinearFee
      ⟨some incompleteHex, s.nativeFeeConfig⟩ (.ofNat i) keyPair.toObject =
        .ok (crates.core.toIncomplete extended) := by
    refine bind_eq_ok.mpr ⟨raw, hextends.decoded, bind_eq_ok.mpr ⟨_, hkeys, ?_⟩⟩
    refine bind_eq_ok.mpr ⟨i, chainNeon_eq_ok.mpr (JsNumber.parseUsize_ofNat (by omega)), ?_⟩
    refine bind_eq_ok.mpr ⟨signer, chainNeon_eq_ok.mpr hsigner, ?_⟩
    refine bind_eq_ok.mpr ⟨witness, chainNeon_eq_ok.mpr hwitness, ?_⟩
    exact bind_eq_ok.mpr ⟨extended, chainNeon_eq_ok.mpr hadd, rfl⟩
  refine ⟨.undefined, outcome_ok (t := s.setIncompleteHex (crates.core.toIncomplete extended)) ?_⟩
  simp [machine, signInput_run, hverify, hhex, hsign]

end Signing

/-- Each input is signed by its owner, in the given order. -/
def signings {native : NativeModule} (owner : ℕ → KeyPair native) (order : List ℕ) :
    List (Call native) :=
  order.map fun i => .signInput (.ofNat i) (owner i)

/-- The calls all succeeded, changed nothing but the witnesses, and left a builder
that is completed and passes the checks of `toHex` that are not the native ones. -/
structure Completes (native : NativeModule) (runtime : Runtime) (s : Builder)
    (log : Log JsError Builder (Call native) Value) (t : Builder) : Prop where
  succeeded : ∀ e ∈ log, e.succeeded = true
  unchanged : ∃ incompleteHex, t = { s with incompleteHex := incompleteHex }
  txId : t.txId native = s.txId native
  isCompleted : outcome (machine native runtime) t (.query .isCompleted) = .ok (.flag true)
  toHex : ∀ address, owTendermintAddress runtime (address.getD defaultTendermintAddress) = none →
    s.hasOutput = true → toHex native runtime t address = completedHex native runtime t address

theorem not_adds_of_signings {native : NativeModule} {owner : ℕ → KeyPair native}
    {order : List ℕ} {log : Log JsError Builder (Call native) Value}
    (h : log.map Entry.call = (signings owner order).reverse) : ∀ e ∈ log, ¬ Adds e := by
  intro e he hadds
  have hcall : e.call ∈ (signings owner order).reverse := h ▸ List.mem_map_of_mem he
  obtain ⟨i, -, hi⟩ := List.mem_map.mp (List.mem_reverse.mp hcall)
  rw [Adds, ← hi] at hadds
  cases hadds.2

/-- A run from `s₀` that reached `s` and has only given witnesses since. -/
structure WitnessedFrom (native : NativeModule) (runtime : Runtime) (s₀ s : Builder)
    (log : Log JsError Builder (Call native) Value) (t : Builder) : Prop where
  run : Run (machine native runtime) s₀ log t
  unchanged : ∃ incompleteHex, t = { s with incompleteHex := incompleteHex }

/-- The inputs of the builder have owners, on a network that is identified and whose
fee is read. -/
structure Signable (crates : Crates) (multiSig : MultiSigModule) (s : Builder)
    (owner : ℕ → KeyPair (nativeModule crates multiSig)) : Prop where
  network : MatchingChainId s.network
  fee : ∃ fee, parseLinearFeeConfig crates s.nativeFeeConfig = .ok fee
  hasInput : s.hasInput = true
  length : s.inputs.length < 2 ^ 32
  owned : ∀ i input, s.inputs[i]? = some input → OwnedBy s.network (owner i) input

/-- The owners of the inputs sign in any order. -/
theorem Signable.completes
    (laws : RawBuilderLaws crates.core crates.transactions contents witnesses)
    (hcompleted : ∀ raw, crates.core.isCompleted raw = (witnesses raw).all Option.isSome)
    (hadds : ∀ raw i witness, i < (witnesses raw).length →
      ∃ extended, crates.core.addWitness raw i witness = .ok extended)
    (signing : SigningLaws crates.keys) (marshal : MarshalLaws crates coinValue)
    {options : Option TransferTransactionBuilderOptions} {s₀ s : Builder}
    {log : Log JsError Builder (Call (nativeModule crates multiSig)) Value}
    (hnew : TransferTransactionBuilder.new options = .ok s₀)
    (run : Run (machine (nativeModule crates multiSig) runtime) s₀ log s)
    {owner : ℕ → KeyPair (nativeModule crates multiSig)} (h : Signable crates multiSig s owner)
    {order : List ℕ} (horder : ∀ i, i ∈ order ↔ i < s.inputs.length) :
    Completes (nativeModule crates multiSig) runtime s
      (execute (machine (nativeModule crates multiSig) runtime) s (signings owner order)).1
      (execute (machine (nativeModule crates multiSig) runtime) s (signings owner order)).2 := by
  have hidentified := (identified_iff s.network).mpr h.network
  have hbuilds := buildIncompleteHex_progress marshal ((History.start hnew).run run) hidentified
    h.fee fun input hmem => by
      obtain ⟨i, hi⟩ := List.mem_iff_getElem?.mp hmem
      exact (h.owned i input hi).addressParams
  have hcall : ∀ log t c, WitnessedFrom (nativeModule crates multiSig) runtime s₀ s log t →
      c ∈ signings owner order →
      (∃ v, outcome (machine (nativeModule crates multiSig) runtime) t c = .ok v) ∧
        WitnessedFrom (nativeModule crates multiSig) runtime s₀ s
          (entry (machine (nativeModule crates multiSig) runtime) t c :: log)
          (next (machine (nativeModule crates multiSig) runtime) t c) := by
    intro log t c ht hc
    obtain ⟨i, hi, rfl⟩ := List.mem_map.mp hc
    obtain ⟨hrun, incompleteHex, rfl⟩ := ht
    have hi' := List.getElem?_eq_getElem ((horder i).mp hi)
    have hprogress : ∃ v, outcome (machine (nativeModule crates multiSig) runtime)
        { s with incompleteHex := incompleteHex } (.signInput (.ofNat i) (owner i)) = .ok v :=
      signInput_progress laws hadds signing (run_payload laws hnew hrun) hbuilds h.length hi'
        (h.owned i _ hi')
    refine ⟨hprogress, .call _ hrun, ?_⟩
    obtain ⟨v, hv⟩ := hprogress
    have hstep := step_of_outcome hv
    generalize next (machine (nativeModule crates multiSig) runtime) _ _ = t at hstep ⊢
    cases hstep with
    | signInput _ _ _ updated _ _ _ => exact ⟨some updated, rfl⟩
    | kept hno => cases (hno v rfl).2
  obtain ⟨hsucceeded, hrun, incompleteHex, hunchanged⟩ :=
    execute_succeeds hcall ⟨run, s.incompleteHex, rfl⟩ fun c hc => hc
  have hcalls := execute_calls (machine (nativeModule crates multiSig) runtime) s
    (signings owner order)
  generalize execute (machine (nativeModule crates multiSig) runtime) s (signings owner order) = r
    at hsucceeded hrun hunchanged hcalls ⊢
  obtain ⟨newer, t⟩ := r
  obtain rfl : t = { s with incompleteHex := incompleteHex } := hunchanged
  obtain ⟨completed, hdone, hiff⟩ := isCompleted_eq_ok hcompleted (run_tracks laws hnew hrun)
  have hcomplete : Complete (newer ++ log) { s with incompleteHex := incompleteHex } := by
    refine ⟨h.hasInput, fun i hi => ?_⟩
    have hmem : Call.signInput (.ofNat i) (owner i) ∈ newer.map Entry.call := by
      rw [hcalls]
      exact List.mem_reverse.mpr (List.mem_map_of_mem ((horder i).mpr hi))
    obtain ⟨e, he, hcall⟩ := List.mem_map.mp hmem
    refine since_of_mem he ⟨hsucceeded e he, ?_⟩ (not_adds_of_signings hcalls) log
    rw [hcall]
    rfl
  refine ⟨hsucceeded, ⟨incompleteHex, rfl⟩, rfl, ?_, ?_⟩
  · rw [query_outcome, answer, hdone, hiff.mpr hcomplete]
    rfl
  · intro address haddress houtput
    have hexport := @toHex_eq _ _ { s with incompleteHex := incompleteHex } _ _ haddress
      h.hasInput houtput hdone
    rwa [if_pos (hiff.mpr hcomplete)] at hexport

/-- In every reachable state whose inputs have owners, the owners can sign in any
order, also again, and complete the transaction. -/
theorem signing_completes_transfer
    (laws : RawBuilderLaws crates.core crates.transactions contents witnesses)
    (hcompleted : ∀ raw, crates.core.isCompleted raw = (witnesses raw).all Option.isSome)
    (hadds : ∀ raw i witness, i < (witnesses raw).length →
      ∃ extended, crates.core.addWitness raw i witness = .ok extended)
    (signing : SigningLaws crates.keys) (marshal : MarshalLaws crates coinValue)
    {options : Option TransferTransactionBuilderOptions} {s₀ s : Builder}
    {log : Log JsError Builder (Call (nativeModule crates multiSig)) Value}
    (hnew : TransferTransactionBuilder.new options = .ok s₀)
    (run : Run (machine (nativeModule crates multiSig) runtime) s₀ log s)
    (hnetwork : MatchingChainId s.network)
    (hfee : ∃ fee, parseLinearFeeConfig crates s.nativeFeeConfig = .ok fee)
    (hinput : s.hasInput = true) (hlength : s.inputs.length < 2 ^ 32)
    {owner : ℕ → KeyPair (nativeModule crates multiSig)}
    (howned : ∀ i input, s.inputs[i]? = some input → OwnedBy s.network (owner i) input)
    {order : List ℕ} (horder : ∀ i, i ∈ order ↔ i < s.inputs.length) :
    Completes (nativeModule crates multiSig) runtime s
      (execute (machine (nativeModule crates multiSig) runtime) s (signings owner order)).1
      (execute (machine (nativeModule crates multiSig) runtime) s (signings owner order)).2 :=
  Signable.completes laws hcompleted hadds signing marshal hnew run
    ⟨hnetwork, hfee, hinput, hlength, howned⟩ horder

end ThalerNodelib.Transfer

namespace ThalerNodelib.Deposit

open Js Native Network KeyPairs ThalerNodelib.Types Runs Crates FunctionTypes NativeExport
  NativeFromCrates NativeStaking

variable {crates : Crates} {multiSig : MultiSigModule} {runtime : Runtime}

/-- A successful `signInput` of the input. -/
def SignsInput {native : NativeModule} (i : ℕ) (e : Event native) : Prop :=
  e.succeeded = true ∧ ∃ index keyPair, e.call = .signInput index keyPair ∧
    index.arrayIndex = some i

/-- A successful call that takes the signature of the input away. -/
def Unsigns {native : NativeModule} (i : ℕ) (e : Event native) : Prop :=
  IsAddInput e ∨ e.succeeded = true ∧ ∃ index witness, e.call = .addWitness index witness ∧
    index.arrayIndex = some i

/-- The witnesses that were made by `signInput` can be read. -/
def SignedDecodes (crates : Crates) {native : NativeModule} (log : List (Event native))
    (s : Builder native) : Prop :=
  ∀ i input witness, s.inputs[i]? = some input → input.witness = some witness →
    Since (SignsInput i) (Unsigns i) log → InWitness crates witness

theorem SignedDecodes.other {native : NativeModule} {log : List (Event native)}
    {s t : Builder native} {c : Call native} {r : Except JsError Value}
    (hs : SignedDecodes crates log s)
    (hno : ∀ v, r = .ok v → c.isAddInput = false ∧ c.isSigning = false)
    (hinputs : t.inputs = s.inputs) : SignedDecodes crates (⟨s, c, r⟩ :: log) t := by
  intro i input witness hi hw hsince
  rw [hinputs] at hi
  rcases (since_cons _ _).mp hsince with ⟨hok, index, keyPair, hcall, -⟩ | ⟨-, hold⟩
  · obtain ⟨v, hv⟩ := (Entry.succeeded_iff _).mp hok
    have hsigning := (hno v hv).2
    change c = _ at hcall
    rw [hcall] at hsigning
    cases hsigning
  · exact hs i input witness hi hw hold

theorem Step.signedDecodes (hlawful : crates.transactions.txInWitness.Lawful)
    {log : List (Event (nativeModule crates multiSig))}
    {s t : Builder (nativeModule crates multiSig)} {c : Call (nativeModule crates multiSig)}
    {r : Except JsError Value} (hs : SignedDecodes crates log s)
    (h : Step (nativeModule crates multiSig) s c r t) :
    SignedDecodes crates (⟨s, c, r⟩ :: log) t := by
  intro i input witness hi hw hsince
  cases h with
  | addInput pointer _ =>
    rw [clearCachedData_getElem? hi] at hw
    cases hw
  | signInput index keyPair k rawTx signed hk _ hb hsign =>
    rw [setWitness_getElem?] at hi
    by_cases hik : k = i
    · rw [if_pos hik] at hi
      obtain ⟨old, -, rfl⟩ := Option.map_eq_some_iff.mp hi
      obtain rfl := Option.some.inj hw
      obtain ⟨_, -, hsign⟩ := bind_eq_ok.mp hsign
      obtain ⟨_, -, hsign⟩ := bind_eq_ok.mp hsign
      obtain ⟨made, -, hsign⟩ := bind_eq_ok.mp hsign
      rw [← Except.ok.inj hsign]
      exact ⟨made, hlawful.read_encode made⟩
    · rw [if_neg hik] at hi
      rcases (since_cons _ _).mp hsince with ⟨-, index', keyPair', hcall, hi'⟩ | ⟨-, hold⟩
      · obtain ⟨rfl, -⟩ := Call.signInput.inj hcall
        exact absurd (Option.some.inj (hk.symm.trans hi')) hik
      · exact hs i input witness hi hw hold
  | addWitness index k given hk _ =>
    rw [setWitness_getElem?] at hi
    rcases (since_cons _ _).mp hsince with ⟨-, index', keyPair', hcall, -⟩ | ⟨hkept, hold⟩
    · cases hcall
    · have hik : k ≠ i := by
        intro hik
        subst hik
        exact hkept (Or.inr ⟨rfl, index, given, rfl, hk⟩)
      rw [if_neg hik] at hi
      exact hs i input witness hi hw hold
  | kept hno => exact hs.other hno rfl i input witness hi hw hsince
  | filled rawTx hno _ => exact hs.other hno rfl i input witness hi hw hsince

theorem run_signedDecodes (hlawful : crates.transactions.txInWitness.Lawful)
    {options : DepositTransactionBuilderOptions} {s₀ s : Builder (nativeModule crates multiSig)}
    {log : List (Event (nativeModule crates multiSig))}
    (hnew : DepositTransactionBuilder.new (nativeModule crates multiSig) options = .ok s₀)
    (run : Run (machine (nativeModule crates multiSig) runtime) s₀ log s) :
    SignedDecodes crates log s := by
  have hs₀ := new_coherent hnew
  refine run.invariant (SignedDecodes crates) ?_ fun log s c hrun hs =>
    Step.signedDecodes hlawful hs (step (run_coherent hs₀ hrun) c)
  intro i input witness _ _ hsince
  obtain ⟨newer, e, older, heq, -⟩ := hsince
  exact absurd heq.symm (List.append_ne_nil_of_right_ne_nil _ (List.cons_ne_nil _ _))

/-- Any key pair with a private key signs any input. -/
theorem signInput_progress (laws : SigningLaws crates.keys)
    {s : Builder (nativeModule crates multiSig)}
    (hs : (cell (nativeModule crates multiSig)).Coherent s) {tx : DepositBondTx crates.types}
    (hbuild : (cell (nativeModule crates multiSig)).build s =
      .ok (rawTxObject crates.transactions.depositBondTx tx)) {i : ℕ} (hi : i < s.inputs.length)
    {keyPair : KeyPair (nativeModule crates multiSig)} (hprivate : keyPair.hasPrivateKey = true) :
    ∃ v, outcome (machine (nativeModule crates multiSig) runtime) s
      (.signInput (.ofNat i) keyPair) = .ok v := by
  obtain ⟨witness, hsigns⟩ :=
    Transfer.signs_isOk laws (crates.transactions.depositBondTx.id tx) hprivate
  have hsign : (nativeModule crates multiSig).signer.schnorrSignTxId
      (bufferFromHex (rawTxObject crates.transactions.depositBondTx tx).txId) keyPair.toObject =
        .ok (crates.transactions.txInWitness.encode witness) :=
    schnorrSignTxId_eq_ok.mpr ⟨witness, hsigns, rfl⟩
  generalize rawTxObject crates.transactions.depositBondTx tx = rawTx at hbuild hsign
  have hindex : (s.setPreparedRawTx rawTx).verifyInputIndex (.ofNat i) = .ok () :=
    verifyInputIndex_ofNat hi
  have hassigned : ∃ t, (assignWitness (nativeModule crates multiSig) (.ofNat i)
      (crates.transactions.txInWitness.encode witness)).run (s.setPreparedRawTx rawTx) =
        .ok () t := by
    have hlength : i < (s.setPreparedRawTx rawTx).inputsLength := hi
    refine ⟨(s.setPreparedRawTx rawTx).setWitness i (crates.transactions.txInWitness.encode witness),
      ?_⟩
    simp [assignWitness, JsNumber.arrayIndex_ofNat, hlength]
  obtain ⟨t, hassigned⟩ := hassigned
  have htxId : (s.setPreparedRawTx rawTx).innertTxId = some rawTx.txId := rfl
  have hnumber : ow (owNumber (.ofNat i)) "index" = .ok () := rfl
  refine ⟨.this, outcome_ok (t := t) ?_⟩
  simp [machine, signInput, hnumber, ensurePrepared_run hs, hbuild, hindex, htxId, hsign, hassigned]

/-- Each input is signed with its key pair, in the given order. -/
def signings {native : NativeModule} (keyPair : ℕ → KeyPair native) (order : List ℕ) :
    List (Call native) :=
  order.map fun i => .signInput (.ofNat i) (keyPair i)

/-- The calls all succeeded and changed no input, and the builder is exported. -/
structure Completes (native : NativeModule) (runtime : Runtime) (address : Option String)
    (s : Builder native) (log : List (Event native)) (t : Builder native) : Prop where
  succeeded : ∀ e ∈ log, e.succeeded = true
  pointers : t.inputs.map WitnessedPrevOutputPointer.prevOutputPointer =
    s.inputs.map WitnessedPrevOutputPointer.prevOutputPointer
  isCompleted : t.isCompleted = true
  toHex : ∃ v, outcome (machine native runtime) t (.toHex address) = .ok v

/-- A run from `s₀` that reached `s` and has only given witnesses since. -/
structure WitnessedFrom (native : NativeModule) (runtime : Runtime) (s₀ s : Builder native)
    (log : List (Event native)) (t : Builder native) : Prop where
  run : Run (machine native runtime) s₀ log t
  network : t.network = s.network
  build : (cell native).build t = (cell native).build s
  pointers : t.inputs.map WitnessedPrevOutputPointer.prevOutputPointer =
    s.inputs.map WitnessedPrevOutputPointer.prevOutputPointer

theorem WitnessedFrom.length {native : NativeModule} {s₀ s t : Builder native}
    {log : List (Event native)} (h : WitnessedFrom native runtime s₀ s log t) :
    t.inputs.length = s.inputs.length := by
  have hlength := congrArg List.length h.pointers
  rwa [List.length_map, List.length_map] at hlength

theorem WitnessedFrom.signInput {native : NativeModule} {s₀ s t : Builder native}
    {log : List (Event native)} (hs₀ : (cell native).Coherent s₀)
    (ht : WitnessedFrom native runtime s₀ s log t) {index : JsNumber} {keyPair : KeyPair native}
    {v : Value} (hv : outcome (machine native runtime) t (.signInput index keyPair) = .ok v) :
    WitnessedFrom native runtime s₀ s
      (entry (machine native runtime) t (.signInput index keyPair) :: log)
      (next (machine native runtime) t (.signInput index keyPair)) := by
  have hstep := step_of_outcome (run_coherent hs₀ ht.run) hv
  have hrun := Run.call (.signInput index keyPair) ht.run
  generalize next (machine native runtime) t (.signInput index keyPair) = u at hstep hrun ⊢
  cases hstep with
  | signInput _ _ i rawTx witness _ _ _ _ =>
    refine ⟨hrun, ht.network, ?_, ?_⟩
    · rw [setWitness_build]
      exact ht.build
    · rw [setWitness_pointers]
      exact ht.pointers
  | kept hno => cases (hno v rfl).2
  | filled _ hno _ => cases (hno v rfl).2

/-- In every reachable state with an input, on a chain id of one byte, signing the
inputs in any order completes the deposit, and it is exported. -/
theorem signing_completes_deposit (laws : ExportLaws crates)
    (hlawful : crates.transactions.txInWitness.Lawful)
    {options : DepositTransactionBuilderOptions} {s₀ s : Builder (nativeModule crates multiSig)}
    {log : List (Event (nativeModule crates multiSig))}
    (hnew : DepositTransactionBuilder.new (nativeModule crates multiSig) options = .ok s₀)
    (run : Run (machine (nativeModule crates multiSig) runtime) s₀ log s)
    (hinput : s.hasInput = true) (hchain : ∃ chainHexId, s.network.chainHexId = [chainHexId])
    {keyPair : ℕ → KeyPair (nativeModule crates multiSig)}
    (hprivate : ∀ i < s.inputs.length, (keyPair i).hasPrivateKey = true)
    {order : List ℕ} (horder : ∀ i, i ∈ order ↔ i < s.inputs.length) {address : Option String}
    (haddress : owTendermintAddress runtime (address.getD defaultTendermintAddress) = none) :
    Completes (nativeModule crates multiSig) runtime address s
      (execute (machine (nativeModule crates multiSig) runtime) s (signings keyPair order)).1
      (execute (machine (nativeModule crates multiSig) runtime) s (signings keyPair order)).2 := by
  have hs₀ := new_coherent hnew
  obtain ⟨tx, hbuild⟩ := build_isOk (run_pointersAccepted hnew run) hinput hchain
  have hcall : ∀ log t c, WitnessedFrom (nativeModule crates multiSig) runtime s₀ s log t →
      c ∈ signings keyPair order →
      (∃ v, outcome (machine (nativeModule crates multiSig) runtime) t c = .ok v) ∧
        WitnessedFrom (nativeModule crates multiSig) runtime s₀ s
          (entry (machine (nativeModule crates multiSig) runtime) t c :: log)
          (next (machine (nativeModule crates multiSig) runtime) t c) := by
    intro log t c ht hc
    obtain ⟨i, hi, rfl⟩ := List.mem_map.mp hc
    have hlt := (horder i).mp hi
    have hprogress : ∃ v, outcome (machine (nativeModule crates multiSig) runtime) t
        (.signInput (.ofNat i) (keyPair i)) = .ok v :=
      signInput_progress laws.toSigningLaws (run_coherent hs₀ ht.run) (ht.build.trans hbuild)
        (by rwa [ht.length]) (hprivate i hlt)
    refine ⟨hprogress, ?_⟩
    obtain ⟨v, hv⟩ := hprogress
    exact ht.signInput hs₀ hv
  obtain ⟨hsucceeded, ht⟩ := execute_succeeds hcall ⟨run, rfl, rfl, rfl⟩ fun c hc => hc
  have hcalls := execute_calls (machine (nativeModule crates multiSig) runtime) s
    (signings keyPair order)
  generalize execute (machine (nativeModule crates multiSig) runtime) s (signings keyPair order) = r
    at hsucceeded ht hcalls ⊢
  obtain ⟨newer, t⟩ := r
  have honly : ∀ e ∈ newer, ∃ i, e.call = .signInput (.ofNat i) (keyPair i) := by
    intro e he
    have hmem : e.call ∈ (signings keyPair order).reverse := hcalls ▸ List.mem_map_of_mem he
    obtain ⟨i, -, hi⟩ := List.mem_map.mp (List.mem_reverse.mp hmem)
    exact ⟨i, hi.symm⟩
  have hsigned : ∀ i < t.inputs.length, ∃ e ∈ newer,
      e.call = .signInput (.ofNat i) (keyPair i) := by
    intro i hi
    have hmem : Call.signInput (.ofNat i) (keyPair i) ∈ newer.map Entry.call := by
      rw [hcalls]
      exact List.mem_reverse.mpr (List.mem_map_of_mem ((horder i).mpr (ht.length ▸ hi)))
    exact List.mem_map.mp hmem
  have hhistory := (History.start hnew).run ht.run
  have hcompleted : t.isCompleted = true := by
    refine hhistory.isCompleted_iff.mpr ⟨?_, fun i hi => ?_⟩
    · rw [ht.length]
      have hne : s.inputs.length ≠ 0 := by simpa [DepositTransactionBuilder.hasInput] using hinput
      omega
    · obtain ⟨e, he, hsign⟩ := hsigned i hi
      refine since_of_mem he ⟨hsucceeded e he, Or.inr ⟨_, _, hsign, JsNumber.arrayIndex_ofNat i⟩⟩
        (fun x hx hadd => ?_) log
      obtain ⟨k, hk⟩ := honly x hx
      rw [IsAddInput, hk] at hadd
      cases hadd.2
  have hexportable : Exportable crates t := by
    refine ⟨by rwa [ht.network], fun input hmem witness hw => ?_⟩
    obtain ⟨i, hi, rfl⟩ := List.mem_iff_getElem.mp hmem
    obtain ⟨e, he, hsign⟩ := hsigned i hi
    refine run_signedDecodes hlawful hnew ht.run i _ witness (List.getElem?_eq_getElem hi) hw ?_
    refine since_of_mem he ⟨hsucceeded e he, _, _, hsign, JsNumber.arrayIndex_ofNat i⟩
      (fun x hx hunsigns => ?_) log
    obtain ⟨k, hk⟩ := honly x hx
    rcases hunsigns with hadd | ⟨-, index, witness, hgiven, -⟩
    · rw [IsAddInput, hk] at hadd
      cases hadd.2
    · rw [hk] at hgiven
      cases hgiven
  exact ⟨hsucceeded, ht.pointers, hcompleted, (toHex_isOk_iff laws hhistory.coherent
    (run_pointersAccepted hnew ht.run) hcompleted haddress).mpr hexportable⟩

end ThalerNodelib.Deposit

namespace ThalerNodelib.WithdrawUnbonded

open Js Native Network KeyPairs ThalerNodelib.Types Runs Crates NativeExport NativeFromCrates
  NativeStaking

variable {crates : Crates} {multiSig : MultiSigModule} {runtime : Runtime}

/-- In every reachable state with an output, whatever witness it has, a withdrawal
that can be encoded is signed in one call and exported in the next. -/
theorem signing_completes_withdrawal (laws : ExportLaws crates)
    {options : WithdrawUnbondedTransactionBuilderOptions} {s₀ s : Builder}
    {log : Log JsError Builder (Call (nativeModule crates multiSig)) Value}
    (hnew : WithdrawUnbondedTransactionBuilder.new options = .ok s₀)
    (run : Run (machine (nativeModule crates multiSig) runtime) s₀ log s)
    (houtput : s.hasOutput = true) (hencodable : Encodable s)
    {keyPair : KeyPair (nativeModule crates multiSig)} (hprivate : keyPair.hasPrivateKey = true)
    {address : Option String}
    (haddress : owTendermintAddress runtime (address.getD defaultTendermintAddress) = none) :
    (∃ v, outcome (machine (nativeModule crates multiSig) runtime) s (.sign keyPair) = .ok v) ∧
    ∃ v, outcome (machine (nativeModule crates multiSig) runtime)
      (next (machine (nativeModule crates multiSig) runtime) s (.sign keyPair)) (.toHex address) =
        .ok v := by
  have hs := (Replay.start hnew).run run
  have hsigns : ∃ v, outcome (machine (nativeModule crates multiSig) runtime) s (.sign keyPair) =
      .ok v := sign_isOk laws hs houtput hencodable hprivate
  refine ⟨hsigns, ?_⟩
  obtain ⟨v, hv⟩ := hsigns
  have hstep := step_of_outcome hs.coherent hv
  have ht := hs.step hstep
  generalize next (machine (nativeModule crates multiSig) runtime) s (.sign keyPair) = t
    at hstep ht ⊢
  cases hstep with
  | sign _ rawTx witness hbuild hsign =>
    obtain ⟨tx, -, hsign⟩ := bind_eq_ok.mp hsign
    obtain ⟨made, -, hsign⟩ := bind_eq_ok.mp hsign
    have hdecodes : OpWitness crates witness := by
      rw [← Except.ok.inj hsign]
      exact ⟨made, laws.stakedStateOpWitness.read_encode made⟩
    exact Ready.toHex laws ht rfl ⟨houtput, hencodable, hdecodes⟩ haddress
  | kept hno => cases (hno v rfl).2
  | filled rawTx hno _ => cases (hno v rfl).2

end ThalerNodelib.WithdrawUnbonded

namespace ThalerNodelib.Progress

open Js Native Network KeyPairs ThalerNodelib.Types Runs Crates NativeFromCrates

variable {crates : Crates} {multiSig : MultiSigModule} {runtime : Runtime}

/-- From every state that a run of the kind reaches, a private key completes the builder. -/
def SignedAnytime (crates : Crates) {Fields : Type} (kind : PublicBuilders.Kind Fields)
    (multiSig : MultiSigModule) : Prop :=
  ∀ options s₀ s log, PublicBuilders.Builder.new (nativeModule crates multiSig) kind options =
      .ok s₀ →
    Run (PublicBuilders.machine kind) s₀ log s →
    ∀ keyPair : KeyPair (nativeModule crates multiSig), keyPair.hasPrivateKey = true →
    ∃ v, outcome (PublicBuilders.machine kind)
      (next (PublicBuilders.machine kind) s (.sign keyPair)) .toHex = .ok v

theorem signedAnytime (laws : ExportLaws crates) {Fields α : Type}
    {kind : PublicBuilders.Kind Fields} {format : TransactionFormat α}
    {publicAux : α → crates.types.StakedStateOpWitness → TxPublicAux crates.types}
    (hformat : format.codec.Lawful)
    (hkind : PublicBuilders.Formatted crates kind format publicAux) :
    SignedAnytime crates kind multiSig := by
  intro options s₀ s log _ _ keyPair hprivate
  exact (PublicBuilders.toHex_isOk_iff laws hformat hkind rfl).mpr hprivate

/-- From every reachable state the holders of the keys complete and export. -/
structure StakingProgress (crates : Crates) (multiSig : MultiSigModule) (runtime : Runtime) :
    Prop where
  deposit : ∀ options s₀ s log,
    Deposit.DepositTransactionBuilder.new (nativeModule crates multiSig) options = .ok s₀ →
    Run (Deposit.machine (nativeModule crates multiSig) runtime) s₀ log s →
    s.hasInput = true → (∃ chainHexId, s.network.chainHexId = [chainHexId]) →
    ∀ (keyPair : ℕ → KeyPair (nativeModule crates multiSig)) (order : List ℕ),
    (∀ i < s.inputs.length, (keyPair i).hasPrivateKey = true) →
    (∀ i, i ∈ order ↔ i < s.inputs.length) →
    ∀ address, owTendermintAddress runtime (address.getD defaultTendermintAddress) = none →
    Deposit.Completes (nativeModule crates multiSig) runtime address s
      (execute (Deposit.machine (nativeModule crates multiSig) runtime) s
        (Deposit.signings keyPair order)).1
      (execute (Deposit.machine (nativeModule crates multiSig) runtime) s
        (Deposit.signings keyPair order)).2
  withdrawUnbonded : ∀ options s₀ s log,
    WithdrawUnbonded.WithdrawUnbondedTransactionBuilder.new options = .ok s₀ →
    Run (WithdrawUnbonded.machine (nativeModule crates multiSig) runtime) s₀ log s →
    s.hasOutput = true → WithdrawUnbonded.Encodable s →
    ∀ keyPair : KeyPair (nativeModule crates multiSig), keyPair.hasPrivateKey = true →
    ∀ address, owTendermintAddress runtime (address.getD defaultTendermintAddress) = none →
    (∃ v, outcome (WithdrawUnbonded.machine (nativeModule crates multiSig) runtime) s
      (.sign keyPair) = .ok v) ∧
    ∃ v, outcome (WithdrawUnbonded.machine (nativeModule crates multiSig) runtime)
      (next (WithdrawUnbonded.machine (nativeModule crates multiSig) runtime) s (.sign keyPair))
      (.toHex address) = .ok v
  unbond : SignedAnytime crates (PublicBuilders.unbond (nativeModule crates multiSig)) multiSig
  nodeJoin : SignedAnytime crates (PublicBuilders.nodeJoin (nativeModule crates multiSig)) multiSig
  unjail : SignedAnytime crates (PublicBuilders.unjail (nativeModule crates multiSig)) multiSig

/-- No reachable state of the staking builders is stuck: whatever was signed or
given before, signing with private keys completes the transaction for export. -/
theorem staking_progress (laws : ExportLaws crates)
    (hlawful : crates.transactions.txInWitness.Lawful) :
    StakingProgress crates multiSig runtime where
  deposit _ _ _ _ hnew run hinput hchain _ _ hprivate horder _ haddress :=
    Deposit.signing_completes_deposit laws hlawful hnew run hinput hchain hprivate horder haddress
  withdrawUnbonded _ _ _ _ hnew run houtput hencodable _ hprivate _ haddress :=
    WithdrawUnbonded.signing_completes_withdrawal laws hnew run houtput hencodable hprivate haddress
  unbond := signedAnytime laws laws.unbondTx PublicBuilders.unbond_formatted
  nodeJoin := signedAnytime laws laws.nodeJoinRequestTx PublicBuilders.nodeJoin_formatted
  unjail := signedAnytime laws laws.unjailTx PublicBuilders.unjail_formatted

namespace Sample

/-- The key pairs of the first input and of the others. -/
def keyPair (i : ℕ) : KeyPair Crates.Sample.module :=
  Crates.Sample.keyPair (if i = 0 then 7 else 8)

theorem keyPair_private (i : ℕ) : (keyPair i).hasPrivateKey = true := rfl

/-- Two inputs, the second with bytes that are no witness. -/
def deposit : Log JsError (Deposit.Builder Crates.Sample.module) (Deposit.Call Crates.Sample.module)
    Deposit.Value × Deposit.Builder Crates.Sample.module :=
  execute (Deposit.machine Crates.Sample.module Native.Sample.runtime) Deposit.Sample.cratesStart
    [.addInput ⟨hexEncode (Crates.Sample.privateKey 7), .ofNat 3⟩,
      .addInput ⟨hexEncode (Crates.Sample.privateKey 8), .ofNat 0⟩, .addWitness (.ofNat 1) [1]]

theorem deposit_length : deposit.2.inputs.length = 2 := by decide +kernel

/-- Two inputs of different owners, the first of them signed. -/
def transfer : Log JsError Transfer.Builder (Transfer.Call Crates.Sample.module) Transfer.Value ×
    Transfer.Builder :=
  Transfer.Sample.run [.addInput (Transfer.Sample.input 7 1 1),
    .addInput (Transfer.Sample.input 8 1 1), .addOutput Transfer.Sample.output,
    .signInput (.ofNat 0) (Crates.Sample.keyPair 7)]

theorem transfer_inputs :
    transfer.2.inputs = [Transfer.Sample.input 7 1 1, Transfer.Sample.input 8 1 1] := by
  decide +kernel

theorem transfer_network : transfer.2.network = mainnet := by decide +kernel

theorem mem_order (i : ℕ) : i ∈ [1, 0] ↔ i < 2 := by
  rw [List.mem_cons, List.mem_singleton]
  omega

theorem owned (i : ℕ) (input : Input) (h : transfer.2.inputs[i]? = some input) :
    Transfer.OwnedBy transfer.2.network (keyPair i) input := by
  rw [transfer_inputs] at h
  rw [transfer_network]
  rcases i with _ | _ | i
  · obtain rfl := Option.some.inj h
    exact ⟨rfl, rfl, by decide +kernel⟩
  · obtain rfl := Option.some.inj h
    exact ⟨rfl, rfl, by decide +kernel⟩
  · cases h

end Sample

/-- Bytes that are no witness do not stand in the way. -/
theorem staking_progress_deposit :
    Deposit.Completes Crates.Sample.module Native.Sample.runtime none Sample.deposit.2
      (execute (Deposit.machine Crates.Sample.module Native.Sample.runtime) Sample.deposit.2
        (Deposit.signings Sample.keyPair [1, 0])).1
      (execute (Deposit.machine Crates.Sample.module Native.Sample.runtime) Sample.deposit.2
        (Deposit.signings Sample.keyPair [1, 0])).2 := by
  have hprogress : StakingProgress Crates.Sample.crates Native.Sample.module.multiSig
      Native.Sample.runtime :=
    staking_progress Crates.Sample.export_laws Crates.Sample.layout_laws.txInWitness.lawful
  have horder : ∀ i, i ∈ [1, 0] ↔ i < Sample.deposit.2.inputs.length := by
    intro i
    rw [Sample.deposit_length]
    exact Sample.mem_order i
  exact hprogress.deposit _ _ Sample.deposit.2 Sample.deposit.1
    Deposit.Sample.new_cratesOptions (run_execute _ _ _) (by decide +kernel)
    ⟨0x2A, by decide +kernel⟩ Sample.keyPair [1, 0] (fun i _ => Sample.keyPair_private i) horder
    none (by decide +kernel)

/-- The first input is signed again after the second. -/
theorem signing_completes_two_owners :
    Transfer.Completes Crates.Sample.module Native.Sample.runtime Sample.transfer.2
      (execute (Transfer.machine Crates.Sample.module Native.Sample.runtime) Sample.transfer.2
        (Transfer.signings Sample.keyPair [1, 0])).1
      (execute (Transfer.machine Crates.Sample.module Native.Sample.runtime) Sample.transfer.2
        (Transfer.signings Sample.keyPair [1, 0])).2 := by
  have hrun : Run (Transfer.machine Crates.Sample.module Native.Sample.runtime)
    Transfer.Sample.start Sample.transfer.1 Sample.transfer.2 := run_execute _ _ _
  have hadds : ∀ (raw : Crates.Sample.RawBuilder) i witness, i < raw.2.length →
      ∃ extended, Crates.Sample.crates.core.addWitness raw i witness = .ok extended := by
    intro raw i witness hi
    exact ⟨_, Crates.Sample.RawBuilder.addWitness_eq_ok.mpr ⟨hi, rfl⟩⟩
  have hlength : Sample.transfer.2.inputs.length = 2 := congrArg List.length Sample.transfer_inputs
  have horder : ∀ i, i ∈ [1, 0] ↔ i < Sample.transfer.2.inputs.length := by
    intro i
    rw [hlength]
    exact Sample.mem_order i
  refine Transfer.signing_completes_transfer Crates.Sample.raw_builder_laws (fun _ => rfl) hadds
    Crates.Sample.export_laws.toSigningLaws Crates.Sample.marshal_laws Transfer.Sample.new_options
    hrun ?_ ?_ (by decide +kernel) (by omega) Sample.owned horder
  · rw [Sample.transfer_network]
    exact ⟨0x2A, by decide +kernel, Or.inl (by decide +kernel)⟩
  · have hfee : (FunctionTypes.parseLinearFeeConfig Crates.Sample.crates
        Sample.transfer.2.nativeFeeConfig).toOption.isSome = true := by decide +kernel
    exact ⟨_, eq_ok_of_isSome hfee⟩

end ThalerNodelib.Progress
