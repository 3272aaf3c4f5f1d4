import ThalerNodelib.Marshalling
import ThalerNodelib.UnjailVerification

/-!
What the builders of unbond, node join and unjail transactions export, read back
from the exported bytes: the transaction says what the options said, and its
witness is the signature of the key pair given last.
-/
namespace ThalerNodelib.PublicBuilders

open Js Native Network KeyPairs ThalerNodelib.Types Runs Crates FunctionTypes NativeExport
  NativeFromCrates NativeStaking

variable {crates : Crates} {multiSig : MultiSigModule} {Fields α : Type}
  {coinValue : crates.types.Coin → ℕ}

/-- The address, the nonce and the chain id that the three kinds have. -/
structure Operates (crates : Crates) (stakingAddress : String) (nonce : BigNumber)
    (network : NetworkConfig) (address : crates.types.StakedStateAddress) (parsed : UInt64)
    (attributes : StakedStateOpAttributes) : Prop where
  address : crates.keys.stakedStateAddressFromStr stakingAddress = .ok address
  nonce : nonce = .ofNat parsed.toNat
  chainHexId : network.chainHexId = [attributes.chainHexId]

structure Unbonds (crates : Crates) (coinValue : crates.types.Coin → ℕ) (fields : UnbondFields)
    (network : NetworkConfig) (tx : UnbondTx crates.types) : Prop where
  operates : Operates crates fields.stakingAddress fields.nonce network tx.fromStakedAccount tx.nonce
    tx.attributes
  amount : fields.amount = .ofNat (coinValue tx.value)

structure JoinsAs (crates : Crates) (fields : NodeJoinFields) (network : NetworkConfig)
    (tx : NodeJoinRequestTx crates.types) : Prop where
  operates : Operates crates fields.stakingAddress fields.nonce network tx.address tx.nonce
    tx.attributes
  nodeMeta : crates.transactions.councilNodeFromJson (nativeNodeMetaData fields.nodeMetaData) =
    .ok tx.nodeMeta

def Unjails (crates : Crates) (fields : UnjailFields) (network : NetworkConfig)
    (tx : UnjailTx crates.types) : Prop :=
  Operates crates fields.stakingAddress fields.nonce network tx.address tx.nonce tx.attributes

/-- A nonce that the options accept and the native module reads is read as itself. -/
theorem nonce_eq_of_parsed {nonce : BigNumber} {parsed : UInt64}
    (haccepted : owAccountNonce nonce = none)
    (hparsed : parseAccountNonce nonce.toString10 = .ok parsed) : nonce = .ofNat parsed.toNat := by
  obtain ⟨n, -, rfl⟩ := (owAccountNonce_iff nonce).mp haccepted
  exact (parseAccountNonce_eq_ok (BigNumber.isInteger_ofNat n)).mp hparsed

/-- An amount that the options accept is read as itself. -/
theorem amount_eq_of_parsed (laws : MarshalLaws crates coinValue) {amount : BigNumber}
    {coin : crates.types.Coin} (haccepted : owCoin amount = none)
    (hparsed : crates.transactions.coinFromStr amount.toString10 = .ok coin) :
    amount = .ofNat (coinValue coin) := by
  obtain ⟨n, hn, rfl⟩ := (owCoin_iff amount).mp haccepted
  obtain ⟨coin', hread, hvalue⟩ := laws.coinFromStr n hn
  rw [BigNumber.toString10_ofNat] at hparsed
  obtain rfl := ok_unique hread hparsed
  rw [hvalue]

/-- The raw transactions of accepted options say what the options said. -/
structure Denoting (crates : Crates) (kind : Kind Fields) (format : TransactionFormat α)
    (publicAux : α → crates.types.StakedStateOpWitness → TxPublicAux crates.types)
    (denotes : Fields → NetworkConfig → α → Prop) : Prop where
  formatted : Formatted crates kind format publicAux
  lawful : format.codec.Lawful
  denotes : ∀ fields network rawTx, kind.ow fields = .ok none →
    kind.buildRaw fields network = .ok rawTx →
    ∃ tx, rawTx = rawTxObject format tx ∧ denotes fields network tx

theorem unbond_denoting (formats : FormatLaws crates.transactions)
    (laws : MarshalLaws crates coinValue) :
    Denoting crates (unbond (nativeModule crates multiSig)) crates.transactions.unbondTx
      .unbondStakeTx (Unbonds crates coinValue) where
  formatted := unbond_formatted
  lawful := formats.unbondTx.lawful
  denotes fields network rawTx haccepted h := by
    obtain ⟨_, -, haccepted⟩ := bind_eq_ok.mp haccepted
    have hfields := (Option.orElse_eq_none _ _).mp (Except.ok.inj haccepted)
    obtain ⟨hnonce, hamount⟩ := (Option.orElse_eq_none _ _).mp hfields.2
    obtain ⟨address, haddress, h⟩ := bind_eq_ok.mp h
    obtain ⟨nonce, hparsed, h⟩ := bind_eq_ok.mp h
    obtain ⟨coin, hcoin, h⟩ := bind_eq_ok.mp h
    obtain ⟨chainHexId, hchain, h⟩ := bind_eq_ok.mp h
    refine ⟨_, (Except.ok.inj h).symm, ⟨?_, ?_, ?_⟩, ?_⟩
    · exact chainNeon_eq_ok.mp haddress
    · exact nonce_eq_of_parsed hnonce hparsed
    · exact chainHexIdFromVec_eq_ok.mp hchain
    · exact amount_eq_of_parsed laws hamount (chainNeon_eq_ok.mp hcoin)

theorem nodeJoin_denoting (formats : FormatLaws crates.transactions) :
    Denoting crates (nodeJoin (nativeModule crates multiSig)) crates.transactions.nodeJoinRequestTx
      .nodeJoinTx (JoinsAs crates) where
  formatted := nodeJoin_formatted
  lawful := formats.nodeJoinRequestTx.lawful
  denotes fields network rawTx haccepted h := by
    obtain ⟨_, -, haccepted⟩ := bind_eq_ok.mp haccepted
    have hfields := (Option.orElse_eq_none _ _).mp (Except.ok.inj haccepted)
    obtain ⟨hnonce, -⟩ := (Option.orElse_eq_none _ _).mp hfields.2
    obtain ⟨address, haddress, h⟩ := bind_eq_ok.mp h
    obtain ⟨nonce, hparsed, h⟩ := bind_eq_ok.mp h
    obtain ⟨councilNode, hnode, h⟩ := bind_eq_ok.mp h
    obtain ⟨chainHexId, hchain, h⟩ := bind_eq_ok.mp h
    refine ⟨_, (Except.ok.inj h).symm, ⟨?_, ?_, ?_⟩, ?_⟩
    · exact chainNeon_eq_ok.mp haddress
    · exact nonce_eq_of_parsed hnonce hparsed
    · exact chainHexIdFromVec_eq_ok.mp hchain
    · exact chainNeon_eq_ok.mp hnode

theorem unjail_denoting (formats : FormatLaws crates.transactions) :
    Denoting crates (unjail (nativeModule crates multiSig)) crates.transactions.unjailTx .unjailTx
      (Unjails crates) where
  formatted := unjail_formatted
  lawful := formats.unjailTx.lawful
  denotes fields network rawTx haccepted h := by
    obtain ⟨_, -, haccepted⟩ := bind_eq_ok.mp haccepted
    have hnonce := ((Option.orElse_eq_none _ _).mp (Except.ok.inj haccepted)).2
    obtain ⟨tx, htx, h⟩ := bind_eq_ok.mp h
    obtain ⟨haddress, hparsed, hchain⟩ := parseUnjailTxProps_eq_ok.mp htx
    refine ⟨tx, (Except.ok.inj h).symm, haddress, ?_, chainHexIdFromVec_eq_ok.mp hchain⟩
    exact nonce_eq_of_parsed hnonce hparsed

/-- The key pair was given by a call, and no later call gave one. -/
def SignedLast {native : NativeModule} {kind : Kind Fields}
    (log : Log JsError (Builder native kind) (Call native) (Value Fields))
    (keyPair : KeyPair native) : Prop :=
  Since (fun e => e.call = .sign keyPair) (fun e => ∃ other, e.call = .sign other) log

/-- The key pair that a builder holds is the one given last. -/
theorem signedLast_of_run {native : NativeModule} {kind : Kind Fields} {options : Options Fields}
    {s₀ s : Builder native kind} {log : Log JsError (Builder native kind) (Call native) (Value Fields)}
    (hnew : Builder.new native kind options = .ok s₀) (run : Run (machine kind) s₀ log s)
    {keyPair : KeyPair native} (h : s.keyPair = some keyPair) : SignedLast log keyPair := by
  refine run.invariant (fun log s => ∀ keyPair, s.keyPair = some keyPair → SignedLast log keyPair)
    ?_ ?_ keyPair h
  · intro keyPair hkeyPair
    rw [new_unsigned hnew] at hkeyPair
    cases hkeyPair
  · intro log s c _ ih keyPair hkeyPair
    apply (since_cons _ _).mpr
    by_cases hsign : ∃ given, c = .sign given
    · obtain ⟨given, rfl⟩ := hsign
      obtain rfl := Option.some.inj hkeyPair
      exact Or.inl rfl
    · rcases next_eq s c with hsame | ⟨given, hgiven, -⟩
      · rw [hsame] at hkeyPair
        exact Or.inr ⟨hsign, ih keyPair hkeyPair⟩
      · exact absurd ⟨given, hgiven⟩ hsign

/-- A signature of the id from which the address of the private key is recovered. -/
def SignedBy (crates : Crates) (witness : crates.types.StakedStateOpWitness) (id : H256)
    (keyPair : KeyPair (nativeModule crates multiSig)) : Prop :=
  ∃ secret privateKey, keyPair.innerPrivateKey = some secret ∧
    crates.keys.privateKeyDeserializeFrom secret = .ok privateKey ∧
    crates.transactions.verifyTxRecoverAddress witness id =
      .ok (crates.keys.basicRedeem (crates.keys.publicKeyFrom privateKey))

theorem signedBy_of_signId (laws : RecoveryLaws crates) {id : H256}
    {keyPair : KeyPair (nativeModule crates multiSig)} {witness : crates.types.StakedStateOpWitness}
    (h : signId crates id keyPair.toObject = .ok witness) :
    SignedBy crates witness id keyPair := by
  have hprivate := (signId_isOk_iff laws.toSigningLaws id keyPair).mp ⟨witness, h⟩
  obtain ⟨secret, privateKey, message, hsecret, hread, hmessage, hsign⟩ :=
    signId_eq_ok laws.toSigningLaws id hprivate
  obtain rfl := ok_unique hsign h
  exact ⟨secret, privateKey, hsecret, hread, laws.recover id message privateKey hmessage⟩

/-- What the bytes exported by a builder are. -/
theorem toHex_parts {kind : Kind Fields} {format : TransactionFormat α}
    {publicAux : α → crates.types.StakedStateOpWitness → TxPublicAux crates.types}
    {denotes : Fields → NetworkConfig → α → Prop}
    (hkind : Denoting crates kind format publicAux denotes)
    {s : Builder (nativeModule crates multiSig) kind} {hex : Buffer} (h : s.toHex = .ok hex) :
    ∃ tx witness keyPair, denotes s.fields s.network tx ∧ s.txId = hexEncode (format.id tx).val ∧
      s.keyPair = some keyPair ∧ signId crates (format.id tx) keyPair.toObject = .ok witness ∧
      hex = crates.transactions.txAux.encode (.publicTx (publicAux tx witness)) := by
  obtain ⟨tx, htx, hdenotes⟩ := hkind.denotes _ _ _ s.fields_accepted s.prepared
  cases hkeyPair : s.keyPair with
  | none =>
    rw [Builder.toHex, hkeyPair] at h
    cases h
  | some keyPair =>
    have hraw : s.unsignedRawTx = (rawTxObject format tx).unsignedRawTx :=
      congrArg RawTx.unsignedRawTx htx
    have hexport : publicTransactionToHex crates format publicAux (some s.unsignedRawTx)
        keyPair.toObject = .ok hex := by
      rw [← h, Builder.toHex, hkeyPair, ← hkind.formatted.signed]
    rw [hraw] at hexport
    obtain ⟨tx', hread, hexport⟩ := bind_eq_ok.mp hexport
    obtain rfl := ok_unique (txArgument_rawTxObject crates hkind.lawful tx) hread
    obtain ⟨witness, hsign, hexport⟩ := bind_eq_ok.mp hexport
    exact ⟨tx, witness, keyPair, hdenotes, congrArg RawTx.txId htx, rfl, hsign,
      (Except.ok.inj hexport).symm⟩

/-- Whatever a builder exports decodes to one transaction that says what the
options said, has the id that the builder shows, and is signed with the key pair
that was given last. -/
def ExportsWhatItSays (crates : Crates) (multiSig : MultiSigModule) (kind : Kind Fields)
    (format : TransactionFormat α)
    (publicAux : α → crates.types.StakedStateOpWitness → TxPublicAux crates.types)
    (denotes : Fields → NetworkConfig → α → Prop) : Prop :=
  ∀ options s₀ s log hex, Builder.new (nativeModule crates multiSig) kind options = .ok s₀ →
    Run (machine kind) s₀ log s → outcome (machine kind) s .toHex = .ok (.buffer hex) →
    ∃ tx witness keyPair,
      crates.transactions.txAux.decode hex = .ok (.publicTx (publicAux tx witness), []) ∧
      denotes options.fields (initNetwork options.network) tx ∧
      outcome (machine kind) s .txId = .ok (.text (hexEncode (format.id tx).val)) ∧
      SignedLast log keyPair ∧ SignedBy crates witness (format.id tx) keyPair

theorem Denoting.exports (laws : RecoveryLaws crates) (formats : FormatLaws crates.transactions)
    {kind : Kind Fields} {format : TransactionFormat α}
    {publicAux : α → crates.types.StakedStateOpWitness → TxPublicAux crates.types}
    {denotes : Fields → NetworkConfig → α → Prop}
    (hkind : Denoting crates kind format publicAux denotes) :
    ExportsWhatItSays crates multiSig kind format publicAux denotes := by
  intro options s₀ s log hex hnew run hexport
  rw [toHex_outcome] at hexport
  obtain ⟨bytes, hbytes, hvalue⟩ := map_eq_ok.mp hexport
  obtain rfl := Value.buffer.inj hvalue
  obtain ⟨tx, witness, keyPair, hdenotes, hid, hkeyPair, hsign, rfl⟩ := toHex_parts hkind hbytes
  obtain ⟨hfields, hnetwork⟩ := options_of_run hnew run
  rw [hfields, hnetwork] at hdenotes
  refine ⟨tx, witness, keyPair, ?_, hdenotes, ?_, signedLast_of_run hnew run hkeyPair,
    signedBy_of_signId laws hsign⟩
  · have hread := formats.txAux.lawful (.publicTx (publicAux tx witness)) []
    rwa [List.append_nil] at hread
  · rw [← hid]
    rfl

end ThalerNodelib.PublicBuilders

namespace ThalerNodelib.PublicExport

open Js Native Network KeyPairs Runs Crates NativeFromCrates PublicBuilders

variable {crates : Crates} {multiSig : MultiSigModule} {coinValue : crates.types.Coin → ℕ}

/-- The three builders. -/
structure ReadBack (crates : Crates) (multiSig : MultiSigModule)
    (coinValue : crates.types.Coin → ℕ) : Prop where
  unbond : ExportsWhatItSays crates multiSig (unbond (nativeModule crates multiSig))
    crates.transactions.unbondTx .unbondStakeTx (Unbonds crates coinValue)
  nodeJoin : ExportsWhatItSays crates multiSig (nodeJoin (nativeModule crates multiSig))
    crates.transactions.nodeJoinRequestTx .nodeJoinTx (JoinsAs crates)
  unjail : ExportsWhatItSays crates multiSig (unjail (nativeModule crates multiSig))
    crates.transactions.unjailTx .unjailTx (Unjails crates)

/-- What the three builders export reads back as what they were built from. -/
theorem public_exports_read_back (recovery : RecoveryLaws crates)
    (formats : FormatLaws crates.transactions) (marshal : MarshalLaws crates coinValue) :
    ReadBack crates multiSig coinValue where
  unbond := (unbond_denoting formats marshal).exports recovery formats
  nodeJoin := (nodeJoin_denoting formats).exports recovery formats
  unjail := (unjail_denoting formats).exports recovery formats

namespace Sample

/-- The unbond transaction of the sample, signed with one key pair and then with another. -/
def resigned : Log JsError (Builder Crates.Sample.module (unbond Crates.Sample.module))
      (Call Crates.Sample.module) (Value UnbondFields) ×
    Builder Crates.Sample.module (unbond Crates.Sample.module) :=
  execute (machine (unbond Crates.Sample.module)) PublicBuilders.Sample.start
    [.sign (Crates.Sample.keyPair 7), .sign (Crates.Sample.keyPair 8)]

theorem resigned_isOk : resigned.2.toHex.toOption.isSome = true := by decide +kernel

def hex : Buffer := resigned.2.toHex.toOption.get resigned_isOk

theorem toHex_resigned :
    outcome (machine (unbond Crates.Sample.module)) resigned.2 .toHex = .ok (.buffer hex) := by
  have hhex : resigned.2.toHex = .ok hex := eq_ok_of_isSome resigned_isOk
  rw [toHex_outcome, hhex]
  rfl

end Sample

/-- A builder signed with two key pairs exports the signature of the second. -/
theorem public_exports_read_back_resigned :
    ∃ tx witness,
      Crates.Sample.txAux.decode Sample.hex = .ok (.publicTx (.unbondStakeTx tx witness), []) ∧
      Unbonds Crates.Sample.crates UInt64.toNat PublicBuilders.Sample.options.fields mainnet tx ∧
      outcome (machine (unbond Crates.Sample.module)) Sample.resigned.2 .txId =
        .ok (.text (hexEncode (Crates.Sample.crates.transactions.unbondTx.id tx).val)) ∧
      SignedBy Crates.Sample.crates witness (Crates.Sample.crates.transactions.unbondTx.id tx)
        (Crates.Sample.keyPair 8) := by
  have hreadBack : ReadBack Crates.Sample.crates Native.Sample.module.multiSig UInt64.toNat :=
    public_exports_read_back Crates.Sample.recovery_laws
      Crates.Sample.layout_laws.toFormatLaws Crates.Sample.marshal_laws
  obtain ⟨tx, witness, keyPair, hdecode, hunbonds, hid, hlast, hsigned⟩ :=
    hreadBack.unbond _ _ _ _ _ PublicBuilders.Sample.new_options (run_execute _ _ _)
      Sample.toHex_resigned
  refine ⟨tx, witness, hdecode, hunbonds, hid, ?_⟩
  rcases (since_cons _ _).mp hlast with hcall | ⟨hnot, -⟩
  · rwa [Call.sign.inj hcall]
  · exact absurd ⟨_, rfl⟩ hnot

end ThalerNodelib.PublicExport
