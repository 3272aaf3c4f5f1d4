import ThalerNodelib.CompletedExport

/-!
`verifySignedUnjailTxHex` against the builder of unjail transactions. The
verification decodes the exported hex, compares each field with the parsed
option, and recovers the address from the signature.
-/
namespace ThalerNodelib.NativeStaking

open Js Native Network Crates FunctionTypes

variable {crates : Crates}

theorem parseUnjailTxProps_eq_ok {props : UnjailTransactionOptions} {tx : UnjailTx crates.types} :
    parseUnjailTxProps crates props = .ok tx ↔
      crates.keys.stakedStateAddressFromStr props.stakingAddress = .ok tx.address ∧
        parseAccountNonce props.nonce = .ok tx.nonce ∧
        chainHexIdFromVec props.chainHexId = .ok tx.attributes.chainHexId := by
  constructor
  · intro h
    obtain ⟨address, haddress, h⟩ := bind_eq_ok.mp h
    obtain ⟨nonce, hnonce, h⟩ := bind_eq_ok.mp h
    obtain ⟨chainHexId, hchain, h⟩ := bind_eq_ok.mp h
    obtain rfl := Except.ok.inj h
    exact ⟨chainNeon_eq_ok.mp haddress, hnonce, hchain⟩
  · intro h
    obtain ⟨haddress, hnonce, hchain⟩ := h
    exact bind_eq_ok.mpr ⟨tx.address, chainNeon_eq_ok.mpr haddress,
      bind_eq_ok.mpr ⟨tx.nonce, hnonce, bind_eq_ok.mpr ⟨_, hchain, rfl⟩⟩⟩

/-- The verification accepts a transaction that is made of the options, with a
signature from which its own address is recovered. -/
theorem verifyUnjailTxAux_eq_ok {bytes : Buffer} {assertions : UnjailTransactionOptions} :
    verifyUnjailTxAux crates bytes assertions = .ok () ↔
      ∃ tx witness, unjailTxAuxArgument crates bytes = .ok (tx, witness) ∧
        parseUnjailTxProps crates assertions = .ok tx ∧
        crates.transactions.verifyTxRecoverAddress witness (crates.transactions.unjailTx.id tx) =
          .ok tx.address := by
  unfold verifyUnjailTxAux
  constructor
  · intro h
    obtain ⟨⟨tx, witness⟩, hargument, h⟩ := bind_eq_ok.mp h
    obtain ⟨asserted, hasserted, h⟩ := bind_eq_ok.mp h
    obtain ⟨haddress, h⟩ := ite_throw_bind_eq_ok.mp h
    obtain ⟨hnonce, h⟩ := ite_throw_bind_eq_ok.mp h
    obtain ⟨hchain, h⟩ := ite_throw_bind_eq_ok.mp h
    obtain ⟨recovered, hrecovered, h⟩ := bind_eq_ok.mp h
    obtain ⟨hsigner, -⟩ := ite_throw_eq_ok.mp h
    rw [not_not] at haddress hnonce hchain hsigner
    obtain ⟨hparsed, hparsedNonce, hparsedChain⟩ := parseUnjailTxProps_eq_ok.mp hasserted
    refine ⟨tx, witness, hargument, parseUnjailTxProps_eq_ok.mpr ?_, ?_⟩
    · rw [haddress, hnonce, hchain]
      exact ⟨hparsed, hparsedNonce, hparsedChain⟩
    · rw [haddress, ← hsigner]
      exact chainNeon_eq_ok.mp hrecovered
  · intro h
    obtain ⟨tx, witness, hargument, hasserted, hrecover⟩ := h
    refine bind_eq_ok.mpr ⟨(tx, witness), hargument, bind_eq_ok.mpr ⟨tx, hasserted, ?_⟩⟩
    refine ite_throw_bind_eq_ok.mpr ⟨not_not.mpr rfl, ite_throw_bind_eq_ok.mpr ⟨not_not.mpr rfl,
      ite_throw_bind_eq_ok.mpr ⟨not_not.mpr rfl, ?_⟩⟩⟩
    refine bind_eq_ok.mpr ⟨tx.address, chainNeon_eq_ok.mpr hrecover, ?_⟩
    exact ite_throw_eq_ok.mpr ⟨not_not.mpr rfl, rfl⟩

end ThalerNodelib.NativeStaking

namespace ThalerNodelib.PublicBuilders

open Js Native Network KeyPairs ThalerNodelib.Types Runs Crates FunctionTypes NativeExport
  NativeFromCrates NativeStaking

variable {crates : Crates} {multiSig : MultiSigModule} {Fields : Type}

/-- What a builder was constructed from stays in every state of a run. -/
theorem options_of_run {native : NativeModule} {kind : Kind Fields} {options : Options Fields}
    {s₀ s : Builder native kind} {log : Log JsError (Builder native kind) (Call native) (Value Fields)}
    (hnew : Builder.new native kind options = .ok s₀) (run : Run (machine kind) s₀ log s) :
    s.fields = options.fields ∧ s.network = initNetwork options.network := by
  refine run.state_invariant
    (fun s => s.fields = options.fields ∧ s.network = initNetwork options.network) ?_ ?_
  · unfold Builder.new at hnew
    split at hnew
    · cases hnew
    · cases hnew
    · split at hnew
      · cases hnew
      · rw [← Except.ok.inj hnew]
        exact ⟨rfl, rfl⟩
  · intro s c hs
    rcases next_eq s c with hsame | ⟨keyPair, -, hsigned⟩
    · rwa [hsame]
    · rw [hsigned]
      exact hs

end ThalerNodelib.PublicBuilders

namespace ThalerNodelib.UnjailVerification

open Js Native Network KeyPairs ThalerNodelib.Types Runs Crates FunctionTypes NativeExport
  NativeFromCrates NativeStaking PublicBuilders

structure VerifySignedUnjailTxHexOption where
  stakingAddress : String
  nonce : BigNumber
  network : NetworkConfig

def verifySignedUnjailTxHex (native : NativeModule) (unjailTxHex : Buffer)
    (options : VerifySignedUnjailTxHexOption) : Except JsError Unit :=
  native.councilNodeTransaction.verifyUnjailTxAux unjailTxHex {
    stakingAddress := options.stakingAddress
    nonce := options.nonce.toString10
    chainHexId := options.network.chainHexId }

variable {crates : Crates} {multiSig : MultiSigModule}

/-- The two texts are of one address. -/
def SameAddress (crates : Crates) (stakingAddress stakingAddress' : String) : Prop :=
  ∃ address, crates.keys.stakedStateAddressFromStr stakingAddress = .ok address ∧
    crates.keys.stakedStateAddressFromStr stakingAddress' = .ok address

/-- The two nonces are one when printed and parsed. -/
def SameNonce (nonce nonce' : BigNumber) : Prop :=
  ∃ parsed, parseAccountNonce nonce.toString10 = .ok parsed ∧
    parseAccountNonce nonce'.toString10 = .ok parsed

/-- The address is that of the private key of the key pair. -/
def AddressOfKey (crates : Crates) {native : NativeModule} (stakingAddress : String)
    (keyPair : KeyPair native) : Prop :=
  ∃ secret privateKey, keyPair.innerPrivateKey = some secret ∧
    crates.keys.privateKeyDeserializeFrom secret = .ok privateKey ∧
    crates.keys.stakedStateAddressFromStr stakingAddress =
      .ok (crates.keys.basicRedeem (crates.keys.publicKeyFrom privateKey))

theorem unjailTxAuxArgument_encode (formats : FormatLaws crates.transactions)
    (tx : UnjailTx crates.types) (witness : crates.types.StakedStateOpWitness) :
    unjailTxAuxArgument crates (txAuxToHex crates (.publicTx (.unjailTx tx witness))) =
      .ok (tx, witness) := by
  refine bind_eq_ok.mpr ⟨.publicTx (.unjailTx tx witness), ?_, rfl⟩
  exact chainNeon_eq_ok.mpr (formats.txAux.lawful.read_encode _)

/-- What the builder signed is accepted for the options that it was built from,
if they show the address of the key. -/
theorem verify_signed (laws : RecoveryLaws crates) (formats : FormatLaws crates.transactions)
    (s : Builder (nativeModule crates multiSig) (unjail (nativeModule crates multiSig)))
    {keyPair : KeyPair (nativeModule crates multiSig)} (h : keyPair.hasPrivateKey = true)
    (options : VerifySignedUnjailTxHexOption) :
    ∃ hex, (s.sign keyPair).toHex = .ok hex ∧
      (verifySignedUnjailTxHex (nativeModule crates multiSig) hex options = .ok () ↔
        SameAddress crates s.fields.stakingAddress options.stakingAddress ∧
        SameNonce s.fields.nonce options.nonce ∧
        options.network.chainHexId = s.network.chainHexId ∧
        AddressOfKey crates s.fields.stakingAddress keyPair) := by
  obtain ⟨tx, htx, hraw⟩ := bind_eq_ok.mp s.prepared
  have hraw : s.unsignedRawTx = (rawTxObject crates.transactions.unjailTx tx).unsignedRawTx :=
    (congrArg RawTx.unsignedRawTx (Except.ok.inj hraw)).symm
  obtain ⟨haddress, hnonce, hchain⟩ := parseUnjailTxProps_eq_ok.mp htx
  obtain ⟨secret, privateKey, message, hsecret, hprivate, hmessage, hsign⟩ :=
    signId_eq_ok laws.toSigningLaws (crates.transactions.unjailTx.id tx) h
  have hrecover := laws.recover _ message privateKey hmessage
  generalize crates.transactions.stakedStateOpWitnessNew
    (crates.keys.signRecoverable message privateKey) = witness at hsign hrecover
  have hargument := unjailTxAuxArgument_encode formats tx witness
  refine ⟨txAuxToHex crates (.publicTx (.unjailTx tx witness)), ?_, ?_⟩
  · change publicTransactionToHex crates _ _ (some s.unsignedRawTx) keyPair.toObject = _
    rw [hraw]
    exact bind_eq_ok.mpr ⟨tx, txArgument_rawTxObject crates formats.unjailTx.lawful tx,
      bind_eq_ok.mpr ⟨witness, hsign, rfl⟩⟩
  · refine verifyUnjailTxAux_eq_ok.trans ?_
    constructor
    · intro hverified
      obtain ⟨tx', witness', hargument', hparsed, hrecovered⟩ := hverified
      obtain ⟨rfl, rfl⟩ := Prod.mk.inj (ok_unique hargument hargument')
      obtain ⟨haddress', hnonce', hchain'⟩ := parseUnjailTxProps_eq_ok.mp hparsed
      refine ⟨⟨_, haddress, haddress'⟩, ⟨_, hnonce, hnonce'⟩, ?_, ?_⟩
      · exact (chainHexIdFromVec_eq_ok.mp hchain').trans (chainHexIdFromVec_eq_ok.mp hchain).symm
      · refine ⟨secret, privateKey, hsecret, hprivate, ?_⟩
        rw [← hrecover, hrecovered]
        exact haddress
    · intro hsame
      obtain ⟨⟨address, hsame, haddress'⟩, ⟨parsed, hparsed, hnonce'⟩, hchains, secret', privateKey',
        hsecret', hprivate', hkey⟩ := hsame
      obtain rfl : address = tx.address := ok_unique hsame haddress
      obtain rfl : parsed = tx.nonce := ok_unique hparsed hnonce
      obtain rfl : secret = secret' := Option.some.inj (hsecret.symm.trans hsecret')
      obtain rfl : privateKey = privateKey' := ok_unique hprivate hprivate'
      refine ⟨tx, witness, hargument, parseUnjailTxProps_eq_ok.mpr ⟨haddress', hnonce', ?_⟩, ?_⟩
      · rw [hchains]
        exact hchain
      · rw [hrecover, ← hkey]
        exact hsame

/-- Among the integers the nonce that a builder has is the only one that parses to it. -/
theorem sameNonce_iff {nonce nonce' : BigNumber} {parsed : UInt64}
    (hparsed : parseAccountNonce nonce.toString10 = .ok parsed) (hint : nonce.isInteger = true)
    (hint' : nonce'.isInteger = true) : SameNonce nonce nonce' ↔ nonce' = nonce := by
  constructor
  · intro h
    obtain ⟨parsed', hnonce, hnonce'⟩ := h
    rw [(parseAccountNonce_eq_ok hint).mp hnonce, (parseAccountNonce_eq_ok hint').mp hnonce']
  · intro h
    subst h
    exact ⟨parsed, hparsed, hparsed⟩

/-- What the builder exports after a signature verifies exactly for the address,
the nonce and the chain id that it was built from, when the address is that of
the private key. -/
theorem signed_verifies_iff (laws : RecoveryLaws crates)
    (formats : FormatLaws crates.transactions) {options : Options UnjailFields}
    {s₀ s : Builder (nativeModule crates multiSig) (unjail (nativeModule crates multiSig))}
    {log : Log JsError
      (Builder (nativeModule crates multiSig) (unjail (nativeModule crates multiSig)))
      (Call (nativeModule crates multiSig)) (Value UnjailFields)}
    (hnew : Builder.new (nativeModule crates multiSig) (unjail (nativeModule crates multiSig))
      options = .ok s₀)
    (run : Run (machine (unjail (nativeModule crates multiSig))) s₀ log s)
    {keyPair : KeyPair (nativeModule crates multiSig)} (hprivate : keyPair.hasPrivateKey = true)
    (asserted : VerifySignedUnjailTxHexOption) :
    ∃ hex, outcome (machine (unjail (nativeModule crates multiSig)))
        (next (machine (unjail (nativeModule crates multiSig))) s (.sign keyPair)) .toHex =
          .ok (.buffer hex) ∧
      (verifySignedUnjailTxHex (nativeModule crates multiSig) hex asserted = .ok () ↔
        SameAddress crates options.fields.stakingAddress asserted.stakingAddress ∧
        SameNonce options.fields.nonce asserted.nonce ∧
        asserted.network.chainHexId = (initNetwork options.network).chainHexId ∧
        AddressOfKey crates options.fields.stakingAddress keyPair) ∧
      (asserted.nonce.isInteger = true →
        (SameNonce options.fields.nonce asserted.nonce ↔
          asserted.nonce = options.fields.nonce)) := by
  obtain ⟨hfields, hnetwork⟩ := options_of_run hnew run
  obtain ⟨hex, hhex, hverifies⟩ := verify_signed laws formats s hprivate asserted
  rw [hfields, hnetwork] at hverifies
  refine ⟨hex, ?_, hverifies, ?_⟩
  · rw [toHex_outcome]
    change (s.sign keyPair).toHex.map _ = _
    rw [hhex]
    rfl
  · intro hint
    obtain ⟨tx, htx, -⟩ := bind_eq_ok.mp s.prepared
    obtain ⟨-, hparsed, -⟩ := parseUnjailTxProps_eq_ok.mp htx
    obtain ⟨failure, -, haccepted⟩ := bind_eq_ok.mp s.fields_accepted
    have haccepted := ((Option.orElse_eq_none _ _).mp (Except.ok.inj haccepted)).2
    obtain ⟨n, -, hn⟩ := (owAccountNonce_iff _).mp haccepted
    rw [← hfields]
    refine sameNonce_iff hparsed ?_ hint
    rw [hn]
    simp [BigNumber.isInteger, BigNumber.ofNat]

/-! A builder on the sample crates, for the address of a sample key. -/
namespace Sample

def options : Options UnjailFields where
  fields := ⟨"0x" ++ hexEncode ((Crates.Sample.privateKey 7).take 20), .ofNat 5⟩
  network := none

theorem new_isOk : (Builder.new Crates.Sample.module (unjail Crates.Sample.module)
    options).toOption.isSome = true := by decide +kernel

def start : Builder Crates.Sample.module (unjail Crates.Sample.module) :=
  (Builder.new Crates.Sample.module (unjail Crates.Sample.module) options).toOption.get new_isOk

/-- What the builder was made of, with a nonce to be compared. -/
def asserted (nonce : ℕ) : VerifySignedUnjailTxHexOption :=
  ⟨options.fields.stakingAddress, .ofNat nonce, mainnet⟩

end Sample

theorem signed_verifies_for_its_nonce :
    ∃ hex, outcome (machine (unjail Crates.Sample.module))
        (next (machine (unjail Crates.Sample.module)) Sample.start
          (.sign (Crates.Sample.keyPair 7))) .toHex = .ok (.buffer hex) ∧
      verifySignedUnjailTxHex Crates.Sample.module hex (Sample.asserted 5) = .ok () ∧
      verifySignedUnjailTxHex Crates.Sample.module hex (Sample.asserted 6) ≠ .ok () := by
  obtain ⟨hex, hhex, hverifies, -⟩ := signed_verifies_iff Crates.Sample.recovery_laws
    Crates.Sample.layout_laws.toFormatLaws (eq_ok_of_isSome Sample.new_isOk) .start
    (show (Crates.Sample.keyPair 7).hasPrivateKey = true from rfl) (Sample.asserted 5)
  obtain ⟨hex', hhex', hverifies', hnonce⟩ := signed_verifies_iff Crates.Sample.recovery_laws
    Crates.Sample.layout_laws.toFormatLaws (eq_ok_of_isSome Sample.new_isOk) .start
    (show (Crates.Sample.keyPair 7).hasPrivateKey = true from rfl) (Sample.asserted 6)
  obtain rfl : hex = hex' := Value.buffer.inj (ok_unique hhex hhex')
  refine ⟨hex, hhex, hverifies.mpr ⟨⟨_, rfl, rfl⟩, ⟨5, ?_, ?_⟩, rfl, ?_⟩, ?_⟩
  · decide +kernel
  · decide +kernel
  · exact ⟨_, _, rfl, rfl, by decide +kernel⟩
  · intro haccepted
    have hsame := (hnonce (by decide +kernel)).mp (hverifies'.mp haccepted).2.1
    exact absurd hsame (by decide +kernel)

end ThalerNodelib.UnjailVerification
