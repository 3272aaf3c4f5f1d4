import ThalerNodelib.MultiSigBuilder
import ThalerNodelib.NetworkIdentification
import ThalerNodelib.PublicExport

/-!
The addresses that the library makes of keys: `staking` and `transfer`, and the
address of a multi-signature builder. Their texts are read back by the crate,
accepted by the builders, and compared with the keys that sign.
-/
namespace ThalerNodelib.Transfer

open Js Native ThalerNodelib.Types Runs

variable {native : NativeModule} {runtime : Runtime}

/-- An input is taken exactly when it passes the two checks. -/
theorem addInput_isOk_iff (s : Builder) (input : Input) :
    (∃ v, outcome (machine native runtime) s (.addInput input) = .ok v) ↔
      owInput native input = .ok none ∧
        s.isTransferAddressInNetwork native input.prevOutput.address = .ok true := by
  have hguard := guard_eq_ok (owInput native input) "input"
    (s.isTransferAddressInNetwork native input.prevOutput.address)
    "Previous output address does not belongs to the builder network"
  rw [← hguard, ← inputGuard]
  cases h : inputGuard native s input <;> simp [outcome, machine, addInput_run, h]

/-- An output is taken exactly when it passes the two checks. -/
theorem addOutput_isOk_iff (s : Builder) (output : Output) :
    (∃ v, outcome (machine native runtime) s (.addOutput output) = .ok v) ↔
      owOutput native output = .ok none ∧
        s.isTransferAddressInNetwork native output.address = .ok true := by
  have hguard := guard_eq_ok (owOutput native output) "output"
    (s.isTransferAddressInNetwork native output.address)
    "Address does not belongs to the builder network"
  rw [← hguard, ← outputGuard]
  cases h : outputGuard native s output <;> simp [outcome, machine, addOutput_run, h]

end ThalerNodelib.Transfer

namespace ThalerNodelib.WithdrawUnbonded

open Js Native ThalerNodelib.Types Runs

theorem addOutput_isOk_iff {native : NativeModule} {runtime : Runtime} (s : Builder)
    (output : Output) :
    (∃ v, outcome (machine native runtime) s (.addOutput output) = .ok v) ↔
      owWithdrawUnbondedOutput native output = .ok none ∧ s.outputs.length ≠ maxOutputSize ∧
        s.isTransferAddressInNetwork native output.address = .ok true := by
  rw [← outputGuard_eq_ok]
  cases h : outputGuard native s output <;> simp [outcome, machine, addOutput_run, h]

end ThalerNodelib.WithdrawUnbonded

namespace ThalerNodelib.NativeStaking

open Js Native Crates FunctionTypes

variable {crates : Crates} {address : crates.types.StakedStateAddress}

theorem buildRawUnbondTransaction_isOk_iff {options : BuildRawUnbondTransactionOptions}
    (h : crates.keys.stakedStateAddressFromStr options.stakingAddress = .ok address) :
    (∃ rawTx, buildRawUnbondTransaction crates options = .ok rawTx) ↔
      (∃ nonce, parseAccountNonce options.nonce = .ok nonce) ∧
      (∃ coin, crates.transactions.coinFromStr options.amount = .ok coin) ∧
      ∃ chainHexId, options.chainHexId = [chainHexId] := by
  constructor
  · intro hraw
    obtain ⟨rawTx, hraw⟩ := hraw
    obtain ⟨_, -, hraw⟩ := bind_eq_ok.mp hraw
    obtain ⟨nonce, hnonce, hraw⟩ := bind_eq_ok.mp hraw
    obtain ⟨coin, hcoin, hraw⟩ := bind_eq_ok.mp hraw
    obtain ⟨chainHexId, hchain, -⟩ := bind_eq_ok.mp hraw
    exact ⟨⟨nonce, hnonce⟩, ⟨coin, chainNeon_eq_ok.mp hcoin⟩,
      ⟨chainHexId, chainHexIdFromVec_eq_ok.mp hchain⟩⟩
  · intro hparts
    obtain ⟨⟨nonce, hnonce⟩, ⟨coin, hcoin⟩, ⟨chainHexId, hchain⟩⟩ := hparts
    exact ⟨_, bind_eq_ok.mpr ⟨address, chainNeon_eq_ok.mpr h,
      bind_eq_ok.mpr ⟨nonce, hnonce, bind_eq_ok.mpr ⟨coin, chainNeon_eq_ok.mpr hcoin,
        bind_eq_ok.mpr ⟨chainHexId, chainHexIdFromVec_eq_ok.mpr hchain, rfl⟩⟩⟩⟩⟩

theorem buildRawNodeJoinTransaction_isOk_iff {options : BuildRawNodeJoinTransactionOptions}
    (h : crates.keys.stakedStateAddressFromStr options.stakingAddress = .ok address) :
    (∃ rawTx, buildRawNodeJoinTransaction crates options = .ok rawTx) ↔
      (∃ nonce, parseAccountNonce options.nonce = .ok nonce) ∧
      (∃ councilNode, crates.transactions.councilNodeFromJson options.nodeMetaData =
        .ok councilNode) ∧
      ∃ chainHexId, options.chainHexId = [chainHexId] := by
  constructor
  · intro hraw
    obtain ⟨rawTx, hraw⟩ := hraw
    obtain ⟨_, -, hraw⟩ := bind_eq_ok.mp hraw
    obtain ⟨nonce, hnonce, hraw⟩ := bind_eq_ok.mp hraw
    obtain ⟨councilNode, hnode, hraw⟩ := bind_eq_ok.mp hraw
    obtain ⟨chainHexId, hchain, -⟩ := bind_eq_ok.mp hraw
    exact ⟨⟨nonce, hnonce⟩, ⟨councilNode, chainNeon_eq_ok.mp hnode⟩,
      ⟨chainHexId, chainHexIdFromVec_eq_ok.mp hchain⟩⟩
  · intro hparts
    obtain ⟨⟨nonce, hnonce⟩, ⟨councilNode, hnode⟩, ⟨chainHexId, hchain⟩⟩ := hparts
    exact ⟨_, bind_eq_ok.mpr ⟨address, chainNeon_eq_ok.mpr h,
      bind_eq_ok.mpr ⟨nonce, hnonce, bind_eq_ok.mpr ⟨councilNode, chainNeon_eq_ok.mpr hnode,
        bind_eq_ok.mpr ⟨chainHexId, chainHexIdFromVec_eq_ok.mpr hchain, rfl⟩⟩⟩⟩⟩

theorem buildRawUnjailTransaction_isOk_iff {options : UnjailTransactionOptions}
    (h : crates.keys.stakedStateAddressFromStr options.stakingAddress = .ok address) :
    (∃ rawTx, buildRawUnjailTransaction crates options = .ok rawTx) ↔
      (∃ nonce, parseAccountNonce options.nonce = .ok nonce) ∧
      ∃ chainHexId, options.chainHexId = [chainHexId] := by
  constructor
  · intro hraw
    obtain ⟨rawTx, hraw⟩ := hraw
    obtain ⟨tx, htx, -⟩ := bind_eq_ok.mp hraw
    obtain ⟨-, hnonce, hchain⟩ := parseUnjailTxProps_eq_ok.mp htx
    exact ⟨⟨tx.nonce, hnonce⟩, ⟨_, chainHexIdFromVec_eq_ok.mp hchain⟩⟩
  · intro hparts
    obtain ⟨⟨nonce, hnonce⟩, ⟨chainHexId, hchain⟩⟩ := hparts
    have hprops : parseUnjailTxProps crates options = .ok ⟨nonce, address, ⟨chainHexId⟩⟩ :=
      parseUnjailTxProps_eq_ok.mpr ⟨h, hnonce, chainHexIdFromVec_eq_ok.mpr hchain⟩
    exact ⟨_, bind_eq_ok.mpr ⟨_, hprops, rfl⟩⟩

end ThalerNodelib.NativeStaking

namespace ThalerNodelib.Addresses

open Js Native Network KeyPairs ThalerNodelib.Types Runs Crates FunctionTypes NativeExport
  NativeFromCrates

section Options
variable {native : NativeModule}

/-- `StakingOptions`. -/
structure StakingOptions (native : NativeModule) where
  publicKey : Option Buffer
  keyPair : Option (KeyPair native)

structure TransferOptions (native : NativeModule) where
  publicKey : Option Buffer
  keyPair : Option (KeyPair native)
  network : NetworkConfig

/-- Each shape has one of the two properties and no other. -/
def owKey (publicKey : Option Buffer) (keyPair : Option (KeyPair native)) : Option String :=
  check (publicKey.isSome != keyPair.isSome) ""

/-- The key that both functions take from their options. -/
def chosenKey (publicKey : Option Buffer) (keyPair : Option (KeyPair native)) :
    Except JsError Buffer :=
  match keyPair with
  | some keyPair =>
    match keyPair.publicKey with
    | none => .error (.error "Missing public key in KeyPair")
    | some publicKey => .ok publicKey
  | none =>
    match publicKey with
    | none => .error (.typeError "failed downcast to Buffer")
    | some publicKey => .ok publicKey

def staking (options : StakingOptions native) : Except JsError String := do
  ow (owKey options.publicKey options.keyPair) "options"
  let publicKey ← chosenKey options.publicKey options.keyPair
  native.address.getStakingAddressFromPublicKey publicKey

def transfer (options : TransferOptions native) : Except JsError String := do
  ow (owKey options.publicKey options.keyPair <|> check (owNetworkConfig options.network) "")
    "options"
  let publicKey ← chosenKey options.publicKey options.keyPair
  native.address.getTransferAddressFromPublicKey publicKey options.network.name

end Options

/-- The text that starts the transfer addresses of a network. -/
def addressStart : NetworkEnum → String
  | .mainnet => "cro"
  | .testnet => "tcro"
  | .devnet => "dcro"

/-- What is documented of the texts of keys and addresses: both serialisations of
a key are read as it, and an address is read as it was written, for a transfer
address on the network it was written for and no other. -/
structure AddressLaws {types : ChainTypes} (keys : KeyCrate types) : Prop
    extends SigningLaws keys where
  compressed_read : ∀ publicKey,
    keys.publicKeyDeserializeFrom (keys.publicKeySerializeCompressed publicKey) = .ok publicKey
  stakedStateAddress_read : ∀ address,
    keys.stakedStateAddressFromStr (keys.stakedStateAddressToString address) = .ok address
  toCro : ∀ address network, ∃ text, keys.toCro address network = .ok text
  fromCro_toCro : ∀ address network text, keys.toCro address network = .ok text →
    keys.fromCro text network = .ok address
  toCro_start : ∀ address network text, keys.toCro address network = .ok text →
    text.startsWith (addressStart network) = true
  fromCro_network : ∀ text network network' address address',
    keys.fromCro text network = .ok address → keys.fromCro text network' = .ok address' →
    network = network'

namespace Sample

open Crates.Sample

theorem prefixed_eq {start : List Char} (hstart : ∀ c ∈ start, c.toNat < 128) {n : ℕ}
    (bytes : Bytes n) :
    prefixed start n (String.ofList (start ++ hexChars false bytes.val)) = .ok bytes := by
  have hchars : ∀ c ∈ start ++ hexChars false bytes.val, c.toNat < 128 :=
    List.forall_mem_append.mpr
      ⟨hstart, fun c hc => ascii_of_isHexDigit (isHexDigit_of_mem_hexChars hc)⟩
  have hdigits : start.isPrefixOf? (start ++ hexChars false bytes.val) =
      some (hexChars false bytes.val) := List.isPrefixOf?_eq_some_iff_append_eq.mpr rfl
  rw [prefixed, byteChars_of_ascii hchars, hdigits]
  simp only [hexDecodeFrom_hexChars]
  exact dif_pos bytes.property

theorem addressPrefix_ascii :
    ∀ network, ∀ c ∈ addressPrefix network, c.toNat < 128 := by
  intro network
  cases network <;> simp [addressPrefix]

theorem address_laws : AddressLaws keys where
  toSigningLaws := signing_laws
  compressed_read publicKey := by
    have hlength : publicKey.val.length = 33 := publicKey.property
    have hnot : ¬ publicKey.val.length = 65 := by omega
    change publicKeyDeserializeFrom publicKey.val = .ok publicKey
    rw [publicKeyDeserializeFrom, if_neg hnot]
    exact dif_pos hlength
  stakedStateAddress_read address := by
    change prefixed "0x".toList 20 ("0x" ++ String.ofList (hexChars false address.val)) = _
    rw [show "0x" = String.ofList "0x".toList from rfl, ← String.ofList_append,
      String.toList_ofList]
    exact prefixed_eq (by simp) address
  toCro address network := ⟨_, rfl⟩
  fromCro_toCro address network text h := by
    obtain rfl := Except.ok.inj h
    exact prefixed_eq (addressPrefix_ascii network) address
  toCro_start address network text h := by
    obtain rfl := Except.ok.inj h
    rw [String.startsWith_string_iff, String.toList_ofList]
    cases network
    · exact ⟨_, by simp only [addressStart, addressPrefix]; rfl⟩
    · exact ⟨_, by simp only [addressStart, addressPrefix]; rfl⟩
    · exact ⟨_, by simp only [addressStart, addressPrefix]; rfl⟩
  fromCro_network := fromCro_network

end Sample

variable {crates : Crates} {multiSig : MultiSigModule}

/-- The key pair holds the two serialisations of the key. -/
structure HasKey (keyPair : KeyPair (nativeModule crates multiSig))
    (key : crates.types.PublicKey) : Prop where
  publicKey : keyPair.innerPublicKey = some (crates.keys.publicKeySerialize key)
  compressedPublicKey :
    keyPair.innerCompressedPublicKey = some (crates.keys.publicKeySerializeCompressed key)

/-- A key pair with a public key holds both serialisations of one key. -/
theorem hasKey_of_hasPublicKey {keyPair : KeyPair (nativeModule crates multiSig)}
    (h : keyPair.hasPublicKey = true) : ∃ publicKey, HasKey keyPair publicKey := by
  obtain ⟨pk, cpk, sk, horigin⟩ := keyPair
  cases horigin with
  | new => cases h
  | publicKey _ hkeys =>
    obtain ⟨publicKey, -, hkeys⟩ := bind_eq_ok.mp hkeys
    obtain ⟨rfl, rfl⟩ := Prod.mk.inj (Except.ok.inj hkeys)
    exact ⟨publicKey, rfl, rfl⟩
  | privateKey _ hkeys =>
    obtain ⟨privateKey, -, hkeys⟩ := bind_eq_ok.mp hkeys
    obtain ⟨rfl, rfl⟩ := Prod.mk.inj (Except.ok.inj hkeys)
    exact ⟨_, rfl, rfl⟩

/-- With a private key it is the key of that. -/
theorem hasKey_of_privateKey {keyPair : KeyPair (nativeModule crates multiSig)} {secret : Buffer}
    {privateKey : crates.types.PrivateKey} (hsecret : keyPair.innerPrivateKey = some secret)
    (hread : crates.keys.privateKeyDeserializeFrom secret = .ok privateKey) :
    HasKey keyPair (crates.keys.publicKeyFrom privateKey) := by
  obtain ⟨pk, cpk, sk, horigin⟩ := keyPair
  cases horigin with
  | new => cases hsecret
  | publicKey => cases hsecret
  | privateKey _ hkeys =>
    obtain rfl := Option.some.inj hsecret
    obtain ⟨privateKey', hread', hkeys⟩ := bind_eq_ok.mp hkeys
    obtain rfl := ok_unique (chainNeon_eq_ok.mp hread') hread
    obtain ⟨rfl, rfl⟩ := Prod.mk.inj (Except.ok.inj hkeys)
    exact ⟨rfl, rfl⟩

/-- The options name the key: by its key pair or by one of its serialisations. -/
inductive Names (publicKey : crates.types.PublicKey) :
    Option Buffer → Option (KeyPair (nativeModule crates multiSig)) → Prop
  | keyPair {keyPair} (h : HasKey keyPair publicKey) : Names publicKey none (some keyPair)
  | publicKey : Names publicKey (some (crates.keys.publicKeySerialize publicKey)) none
  | compressedPublicKey :
      Names publicKey (some (crates.keys.publicKeySerializeCompressed publicKey)) none

theorem Names.accepted {publicKey : crates.types.PublicKey} {bytes : Option Buffer}
    {keyPair : Option (KeyPair (nativeModule crates multiSig))}
    (h : Names publicKey bytes keyPair) : owKey bytes keyPair = none := by
  cases h <;> rfl

/-- What is chosen is read as the key. -/
theorem Names.chosenKey (laws : AddressLaws crates.keys) {publicKey : crates.types.PublicKey}
    {bytes : Option Buffer} {keyPair : Option (KeyPair (nativeModule crates multiSig))}
    (h : Names publicKey bytes keyPair) :
    ∃ chosen, chosenKey bytes keyPair = .ok chosen ∧
      publicKeyArgument crates chosen = .ok publicKey := by
  cases h with
  | keyPair hkey =>
    refine ⟨crates.keys.publicKeySerialize publicKey, ?_, ?_⟩
    · simp [Addresses.chosenKey, KeyPair.publicKey, hkey.publicKey]
    · exact chainNeon_eq_ok.mpr (laws.publicKey_read publicKey)
  | publicKey => exact ⟨_, rfl, chainNeon_eq_ok.mpr (laws.publicKey_read publicKey)⟩
  | compressedPublicKey => exact ⟨_, rfl, chainNeon_eq_ok.mpr (laws.compressed_read publicKey)⟩

/-- However the key is named, its staking address is the text of its account. -/
theorem staking_eq (laws : AddressLaws crates.keys) {publicKey : crates.types.PublicKey}
    {bytes : Option Buffer} {keyPair : Option (KeyPair (nativeModule crates multiSig))}
    (h : Names publicKey bytes keyPair) :
    staking ⟨bytes, keyPair⟩ =
      .ok (crates.keys.stakedStateAddressToString (crates.keys.basicRedeem publicKey)) := by
  obtain ⟨chosen, hchosen, hread⟩ := h.chosenKey laws
  refine bind_eq_ok.mpr ⟨(), ?_, bind_eq_ok.mpr ⟨chosen, hchosen, ?_⟩⟩
  · rw [h.accepted, ow_none]
  · exact bind_eq_ok.mpr ⟨publicKey, hread, rfl⟩

/-- Equal texts are of equal accounts. -/
theorem stakedStateAddressToString_inj (laws : AddressLaws crates.keys)
    {address address' : crates.types.StakedStateAddress} :
    crates.keys.stakedStateAddressToString address =
        crates.keys.stakedStateAddressToString address' ↔ address = address' := by
  constructor
  · intro h
    have hread := laws.stakedStateAddress_read address
    rw [h] at hread
    exact ok_unique hread (laws.stakedStateAddress_read address')
  · exact congrArg _

/-- A key pair that has a staking address has a key. -/
theorem hasKey_of_staking {keyPair : KeyPair (nativeModule crates multiSig)} {text : String}
    (h : staking ⟨none, some keyPair⟩ = .ok text) : ∃ publicKey, HasKey keyPair publicKey := by
  apply hasKey_of_hasPublicKey
  obtain ⟨_, -, h⟩ := bind_eq_ok.mp h
  obtain ⟨chosen, hchosen, -⟩ := bind_eq_ok.mp h
  simp only [chosenKey, KeyPair.publicKey] at hchosen
  unfold KeyPair.hasPublicKey
  cases hpublic : keyPair.innerPublicKey with
  | some publicKey => rfl
  | none =>
    rw [hpublic] at hchosen
    cases hchosen

/-- A signature is that of the account of a key exactly when the signer has its
staking address. -/
theorem recovers_iff (laws : AddressLaws crates.keys)
    {signer owner : KeyPair (nativeModule crates multiSig)} {key : crates.types.PublicKey}
    (howner : HasKey owner key) {witness : crates.types.StakedStateOpWitness} {id : H256}
    (h : PublicBuilders.SignedBy crates witness id signer) :
    crates.transactions.verifyTxRecoverAddress witness id = .ok (crates.keys.basicRedeem key) ↔
      staking ⟨none, some signer⟩ = staking ⟨none, some owner⟩ := by
  obtain ⟨secret, privateKey, hsecret, hread, hrecover⟩ := h
  have hsigner := hasKey_of_privateKey hsecret hread
  rw [staking_eq laws (.keyPair hsigner), staking_eq laws (.keyPair howner), hrecover,
    Except.ok.injEq, Except.ok.injEq, stakedStateAddressToString_inj laws]

section Accounts
variable (crates multiSig) {Fields α : Type}

/-- A builder of the account of a key pair exports transactions of this account,
which their signature authorises exactly when the key pair given last has its address. -/
def AuthorisedByOwner (kind : PublicBuilders.Kind Fields) (format : TransactionFormat α)
    (publicAux : α → crates.types.StakedStateOpWitness → TxPublicAux crates.types)
    (stakingAddress : Fields → String) (account : α → crates.types.StakedStateAddress) : Prop :=
  ∀ (owner : KeyPair (nativeModule crates multiSig)) options s₀ s log hex,
    staking ⟨none, some owner⟩ = .ok (stakingAddress options.fields) →
    PublicBuilders.Builder.new (nativeModule crates multiSig) kind options = .ok s₀ →
    Run (PublicBuilders.machine kind) s₀ log s →
    outcome (PublicBuilders.machine kind) s .toHex = .ok (.buffer hex) →
    ∃ key tx witness signer, HasKey owner key ∧ account tx = crates.keys.basicRedeem key ∧
      crates.transactions.txAux.decode hex = .ok (.publicTx (publicAux tx witness), []) ∧
      PublicBuilders.SignedLast log signer ∧
      (crates.transactions.verifyTxRecoverAddress witness (format.id tx) = .ok (account tx) ↔
        staking ⟨none, some signer⟩ = staking ⟨none, some owner⟩)

/-- What an unjail builder of the owner exports for the signer verifies for another
key pair exactly when all three have one staking address, and nonce and chain id agree. -/
def VerifiedByOwner : Prop :=
  ∀ (owner claimed signer : KeyPair (nativeModule crates multiSig)) options s₀ s log text nonce
    network,
    staking ⟨none, some owner⟩ = .ok options.fields.stakingAddress →
    staking ⟨none, some claimed⟩ = .ok text → signer.hasPrivateKey = true →
    PublicBuilders.Builder.new (nativeModule crates multiSig)
      (PublicBuilders.unjail (nativeModule crates multiSig)) options = .ok s₀ →
    Run (PublicBuilders.machine (PublicBuilders.unjail (nativeModule crates multiSig))) s₀ log s →
    ∃ hex, outcome (PublicBuilders.machine (PublicBuilders.unjail (nativeModule crates multiSig)))
        (next (PublicBuilders.machine (PublicBuilders.unjail (nativeModule crates multiSig))) s
          (.sign signer)) .toHex = .ok (.buffer hex) ∧
      (UnjailVerification.verifySignedUnjailTxHex (nativeModule crates multiSig) hex
          ⟨text, nonce, network⟩ = .ok () ↔
        staking ⟨none, some claimed⟩ = staking ⟨none, some owner⟩ ∧
        staking ⟨none, some signer⟩ = staking ⟨none, some owner⟩ ∧
        UnjailVerification.SameNonce options.fields.nonce nonce ∧
        network.chainHexId = (initNetwork options.network).chainHexId)

/-- The constructors take the text for a staking address: whether they succeed is
decided by the other options alone. -/
structure Accepted (text : String) : Prop where
  deposit : ∀ network,
    (∃ b, Deposit.DepositTransactionBuilder.new (nativeModule crates multiSig) ⟨text, network⟩ =
      .ok b) ↔ owOptionalNetworkConfig network = true
  unbond : ∀ nonce amount network,
    (∃ b, PublicBuilders.Builder.new (nativeModule crates multiSig)
        (PublicBuilders.unbond (nativeModule crates multiSig)) ⟨⟨text, nonce, amount⟩, network⟩ =
      .ok b) ↔
    (owAccountNonce nonce = none ∧ owCoin amount = none ∧ owOptionalNetworkConfig network = true) ∧
      (∃ parsed, parseAccountNonce nonce.toString10 = .ok parsed) ∧
      (∃ coin, crates.transactions.coinFromStr amount.toString10 = .ok coin) ∧
      ∃ chainHexId, (initNetwork network).chainHexId = [chainHexId]
  nodeJoin : ∀ nonce nodeMetaData network,
    (∃ b, PublicBuilders.Builder.new (nativeModule crates multiSig)
        (PublicBuilders.nodeJoin (nativeModule crates multiSig))
        ⟨⟨text, nonce, nodeMetaData⟩, network⟩ = .ok b) ↔
    (owAccountNonce nonce = none ∧ PublicBuilders.owNodeMetaData nodeMetaData = none ∧
        owOptionalNetworkConfig network = true) ∧
      (∃ parsed, parseAccountNonce nonce.toString10 = .ok parsed) ∧
      (∃ councilNode, crates.transactions.councilNodeFromJson
        (PublicBuilders.nativeNodeMetaData nodeMetaData) = .ok councilNode) ∧
      ∃ chainHexId, (initNetwork network).chainHexId = [chainHexId]
  unjail : ∀ nonce network,
    (∃ b, PublicBuilders.Builder.new (nativeModule crates multiSig)
        (PublicBuilders.unjail (nativeModule crates multiSig)) ⟨⟨text, nonce⟩, network⟩ = .ok b) ↔
    (owAccountNonce nonce = none ∧ owOptionalNetworkConfig network = true) ∧
      (∃ parsed, parseAccountNonce nonce.toString10 = .ok parsed) ∧
      ∃ chainHexId, (initNetwork network).chainHexId = [chainHexId]

/-- The staking address of a key pair is one text however it is asked for, is
accepted by every builder, and stands for the key that signs. -/
structure OwnAccount : Prop where
  one_text : ∀ keyPair : KeyPair (nativeModule crates multiSig), keyPair.hasPublicKey = true →
    ∃ text, staking ⟨none, some keyPair⟩ = .ok text ∧
      staking (⟨keyPair.publicKey, none⟩ : StakingOptions (nativeModule crates multiSig)) =
        .ok text ∧
      staking (⟨keyPair.compressedPublicKey, none⟩ :
        StakingOptions (nativeModule crates multiSig)) = .ok text ∧
      Accepted crates multiSig text
  unbond : AuthorisedByOwner crates multiSig (PublicBuilders.unbond (nativeModule crates multiSig))
    crates.transactions.unbondTx .unbondStakeTx PublicBuilders.UnbondFields.stakingAddress
    UnbondTx.fromStakedAccount
  nodeJoin : AuthorisedByOwner crates multiSig
    (PublicBuilders.nodeJoin (nativeModule crates multiSig)) crates.transactions.nodeJoinRequestTx
    .nodeJoinTx PublicBuilders.NodeJoinFields.stakingAddress NodeJoinRequestTx.address
  unjail : AuthorisedByOwner crates multiSig (PublicBuilders.unjail (nativeModule crates multiSig))
    crates.transactions.unjailTx .unjailTx PublicBuilders.UnjailFields.stakingAddress
    UnjailTx.address
  verified : VerifiedByOwner crates multiSig

end Accounts

/-- The check of staking addresses asks the native module to read the text. -/
theorem owStakingAddress_of_read {text : String} {address : crates.types.StakedStateAddress}
    (h : crates.keys.stakedStateAddressFromStr text = .ok address) :
    owStakingAddress (nativeModule crates multiSig) text = .ok none :=
  bind_eq_ok.mpr ⟨true, congrArg Except.ok ((isOk_iff _).mpr ⟨address, h⟩), rfl⟩

/-- A text that the native module reads is accepted. -/
theorem accepted_of_read {text : String} {address : crates.types.StakedStateAddress}
    (h : crates.keys.stakedStateAddressFromStr text = .ok address) :
    Accepted crates multiSig text where
  deposit network := by
    constructor
    · intro hnew
      obtain ⟨b, hnew⟩ := hnew
      obtain ⟨haccepted, -⟩ := Deposit.DepositTransactionBuilder.new_eq_ok.mp hnew
      exact (Deposit.options_accepted _ haccepted).2
    · intro hnetwork
      have haccepted : Deposit.owDepositTransactionOptions (nativeModule crates multiSig)
          ⟨text, network⟩ = .ok none := by
        rw [Deposit.owDepositTransactionOptions, owStakingAddress_of_read h]
        simp [bind, Except.bind, pure, Except.pure, check, hnetwork]
      exact ⟨_, Deposit.DepositTransactionBuilder.new_eq_ok.mpr ⟨haccepted, rfl⟩⟩
  unbond nonce amount network := by
    rw [PublicBuilders.Builder.new_isOk_iff, ← and_assoc]
    refine and_congr ?_ (NativeStaking.buildRawUnbondTransaction_isOk_iff h)
    change PublicBuilders.owUnbondTransactionBuilderOptions (nativeModule crates multiSig)
      ⟨text, nonce, amount⟩ = .ok none ∧ _ ↔ _
    rw [PublicBuilders.owUnbondTransactionBuilderOptions, owStakingAddress_of_read h]
    simp [bind, Except.bind, pure, Except.pure, and_assoc]
  nodeJoin nonce nodeMetaData network := by
    rw [PublicBuilders.Builder.new_isOk_iff, ← and_assoc]
    refine and_congr ?_ (NativeStaking.buildRawNodeJoinTransaction_isOk_iff h)
    change PublicBuilders.owNodeJoinTransactionBuilderOptions (nativeModule crates multiSig)
      ⟨text, nonce, nodeMetaData⟩ = .ok none ∧ _ ↔ _
    rw [PublicBuilders.owNodeJoinTransactionBuilderOptions, owStakingAddress_of_read h]
    simp [bind, Except.bind, pure, Except.pure, and_assoc]
  unjail nonce network := by
    rw [PublicBuilders.Builder.new_isOk_iff, ← and_assoc]
    refine and_congr ?_ (NativeStaking.buildRawUnjailTransaction_isOk_iff h)
    change PublicBuilders.owUnjailTransactionBuilderOptions (nativeModule crates multiSig)
      ⟨text, nonce⟩ = .ok none ∧ _ ↔ _
    rw [PublicBuilders.owUnjailTransactionBuilderOptions, owStakingAddress_of_read h]
    simp [bind, Except.bind, pure, Except.pure]

theorem authorisedByOwner (laws : AddressLaws crates.keys) (recovery : RecoveryLaws crates)
    (formats : FormatLaws crates.transactions) {Fields α : Type}
    {kind : PublicBuilders.Kind Fields} {format : TransactionFormat α}
    {publicAux : α → crates.types.StakedStateOpWitness → TxPublicAux crates.types}
    {denotes : Fields → NetworkConfig → α → Prop} {stakingAddress : Fields → String}
    {account : α → crates.types.StakedStateAddress}
    (hkind : PublicBuilders.Denoting crates kind format publicAux denotes)
    (haccount : ∀ fields network tx, denotes fields network tx →
      crates.keys.stakedStateAddressFromStr (stakingAddress fields) = .ok (account tx)) :
    AuthorisedByOwner crates multiSig kind format publicAux stakingAddress account := by
  intro owner options s₀ s log hex howner hnew run hexport
  obtain ⟨key, hkey⟩ := hasKey_of_staking howner
  obtain ⟨tx, witness, signer, hdecode, hdenotes, -, hlast, hsigned⟩ :=
    hkind.exports recovery formats options s₀ s log hex hnew run hexport
  have hread := haccount _ _ _ hdenotes
  have htext := howner.symm.trans (staking_eq laws (.keyPair hkey))
  rw [Except.ok.inj htext, laws.stakedStateAddress_read] at hread
  have haccount : account tx = crates.keys.basicRedeem key := (Except.ok.inj hread).symm
  refine ⟨key, tx, witness, signer, hkey, haccount, hdecode, hlast, ?_⟩
  rw [haccount]
  exact recovers_iff laws hkey hsigned

/-- The texts of two keys are of one address exactly when they are equal. -/
theorem sameAddress_iff (laws : AddressLaws crates.keys) {text text' : String}
    {keyPair keyPair' : KeyPair (nativeModule crates multiSig)}
    (h : staking ⟨none, some keyPair⟩ = .ok text) (h' : staking ⟨none, some keyPair'⟩ = .ok text') :
    UnjailVerification.SameAddress crates text text' ↔ text' = text := by
  obtain ⟨key, hkey⟩ := hasKey_of_staking h
  obtain ⟨key', hkey'⟩ := hasKey_of_staking h'
  obtain rfl := ok_unique (staking_eq laws (.keyPair hkey)) h
  obtain rfl := ok_unique (staking_eq laws (.keyPair hkey')) h'
  rw [stakedStateAddressToString_inj laws]
  constructor
  · intro hsame
    obtain ⟨address, hread, hread'⟩ := hsame
    rw [laws.stakedStateAddress_read] at hread hread'
    exact (Except.ok.inj hread').trans (Except.ok.inj hread).symm
  · intro hsame
    refine ⟨_, laws.stakedStateAddress_read _, ?_⟩
    rw [hsame, laws.stakedStateAddress_read]

/-- An address is that of a private key exactly when its key pair has it. -/
theorem addressOfKey_iff (laws : AddressLaws crates.keys) {text : String}
    {owner signer : KeyPair (nativeModule crates multiSig)}
    (howner : staking ⟨none, some owner⟩ = .ok text) (hprivate : signer.hasPrivateKey = true) :
    UnjailVerification.AddressOfKey crates text signer ↔
      staking ⟨none, some signer⟩ = staking ⟨none, some owner⟩ := by
  obtain ⟨key, hkey⟩ := hasKey_of_staking howner
  obtain rfl := ok_unique (staking_eq laws (.keyPair hkey)) howner
  obtain ⟨secret, privateKey, hsecret, hread, -⟩ := parseKeyPair_eq_ok laws.toSigningLaws hprivate
  have hsigner := hasKey_of_privateKey hsecret hread
  rw [howner, staking_eq laws (.keyPair hsigner), Except.ok.injEq,
    stakedStateAddressToString_inj laws]
  unfold UnjailVerification.AddressOfKey
  constructor
  · intro hkeyOf
    obtain ⟨secret', privateKey', hsecret', hread', haddress⟩ := hkeyOf
    obtain rfl : secret = secret' := Option.some.inj (hsecret.symm.trans hsecret')
    obtain rfl := ok_unique hread hread'
    rw [laws.stakedStateAddress_read] at haddress
    exact (Except.ok.inj haddress).symm
  · intro hsame
    refine ⟨secret, privateKey, hsecret, hread, ?_⟩
    rw [hsame, laws.stakedStateAddress_read]

theorem verifiedByOwner (laws : AddressLaws crates.keys) (recovery : RecoveryLaws crates)
    (formats : FormatLaws crates.transactions) : VerifiedByOwner crates multiSig := by
  intro owner claimed signer options s₀ s log text nonce network howner hclaimed hprivate hnew run
  obtain ⟨hfields, hnetwork⟩ := PublicBuilders.options_of_run hnew run
  obtain ⟨hex, hhex, hverifies⟩ :=
    UnjailVerification.verify_signed recovery formats s hprivate ⟨text, nonce, network⟩
  rw [hfields, hnetwork, sameAddress_iff laws howner hclaimed, addressOfKey_iff laws howner hprivate]
    at hverifies
  refine ⟨hex, ?_, hverifies.trans ?_⟩
  · rw [PublicBuilders.toHex_outcome]
    change (s.sign signer).toHex.map _ = _
    rw [hhex]
    rfl
  · rw [hclaimed, howner, Except.ok.injEq]
    constructor
    · intro h
      exact ⟨h.1, h.2.2.2, h.2.1, h.2.2.1⟩
    · intro h
      exact ⟨h.1, h.2.2.1, h.2.2.2, h.2.1⟩

/-- A staking address that the library makes is accepted by its builders, and the
account behind it is controlled by the key it was made of. -/
theorem own_account {coinValue : crates.types.Coin → ℕ} (laws : AddressLaws crates.keys)
    (recovery : RecoveryLaws crates) (formats : FormatLaws crates.transactions)
    (marshal : MarshalLaws crates coinValue) : OwnAccount crates multiSig where
  one_text keyPair h := by
    obtain ⟨key, hkey⟩ := hasKey_of_hasPublicKey h
    refine ⟨_, staking_eq laws (.keyPair hkey), ?_, ?_, ?_⟩
    · rw [KeyPair.publicKey, hkey.publicKey]
      exact staking_eq laws .publicKey
    · rw [KeyPair.compressedPublicKey, hkey.compressedPublicKey]
      exact staking_eq laws .compressedPublicKey
    · exact accepted_of_read (laws.stakedStateAddress_read _)
  unbond := authorisedByOwner laws recovery formats
    (PublicBuilders.unbond_denoting formats marshal) fun _ _ _ h => h.operates.address
  nodeJoin := authorisedByOwner laws recovery formats
    (PublicBuilders.nodeJoin_denoting formats) fun _ _ _ h => h.operates.address
  unjail := authorisedByOwner laws recovery formats
    (PublicBuilders.unjail_denoting formats) fun _ _ _ h => h.address
  verified := verifiedByOwner laws recovery formats

theorem Sample.staking_keyPair (b : UInt8) : staking ⟨none, some (Crates.Sample.keyPair b)⟩ =
      .ok ("0x" ++ hexEncode ((Crates.Sample.privateKey b).take 20)) := by
  rfl

/-- An unjail of the account of a key verifies when it is signed with that key, and
not when it is signed with another. -/
theorem own_account_unjail :
    ∃ hex hex', outcome (PublicBuilders.machine (PublicBuilders.unjail Crates.Sample.module))
        (next (PublicBuilders.machine (PublicBuilders.unjail Crates.Sample.module))
          UnjailVerification.Sample.start (.sign (Crates.Sample.keyPair 7))) .toHex =
        .ok (.buffer hex) ∧
      UnjailVerification.verifySignedUnjailTxHex Crates.Sample.module hex
        (UnjailVerification.Sample.asserted 5) = .ok () ∧
      outcome (PublicBuilders.machine (PublicBuilders.unjail Crates.Sample.module))
        (next (PublicBuilders.machine (PublicBuilders.unjail Crates.Sample.module))
          UnjailVerification.Sample.start (.sign (Crates.Sample.keyPair 8))) .toHex =
        .ok (.buffer hex') ∧
      UnjailVerification.verifySignedUnjailTxHex Crates.Sample.module hex'
        (UnjailVerification.Sample.asserted 5) ≠ .ok () := by
  have hown : OwnAccount Crates.Sample.crates Native.Sample.module.multiSig :=
    own_account Sample.address_laws Crates.Sample.recovery_laws
      Crates.Sample.layout_laws.toFormatLaws Crates.Sample.marshal_laws
  have hstaking := Sample.staking_keyPair 7
  have hverified := fun b => hown.verified (Crates.Sample.keyPair 7) (Crates.Sample.keyPair 7)
    (Crates.Sample.keyPair b) UnjailVerification.Sample.options UnjailVerification.Sample.start
    UnjailVerification.Sample.start [] _ (.ofNat 5) mainnet hstaking hstaking rfl
    (eq_ok_of_isSome UnjailVerification.Sample.new_isOk) .start
  obtain ⟨hex, hhex, hverifies⟩ := hverified 7
  obtain ⟨hex', hhex', hverifies'⟩ := hverified 8
  refine ⟨hex, hex', hhex, hverifies.mpr ⟨rfl, rfl, ⟨5, ?_, ?_⟩, rfl⟩, hhex', fun haccepted => ?_⟩
  · decide +kernel
  · decide +kernel
  · have hsame := (hverifies'.mp haccepted).2.1
    revert hsame
    decide +kernel

/-! Transfer addresses. -/

theorem name_of_owNetworkEnum {name : String} (h : owNetworkEnum name = true) :
    ∃ network : NetworkEnum, name = network.name := by
  simp only [owNetworkEnum, Bool.or_eq_true, beq_iff_eq] at h
  rcases h with (rfl | rfl) | rfl
  · exact ⟨.mainnet, rfl⟩
  · exact ⟨.testnet, rfl⟩
  · exact ⟨.devnet, rfl⟩

/-- The text of the address on the network. -/
def Written (crates : Crates) (network : NetworkEnum) (address : crates.types.ExtendedAddr)
    (text : String) : Prop :=
  crates.keys.toCro address network = .ok text

/-- What `transfer` returns is the address of the chosen key, written for the network
of its options. -/
theorem written_of_transfer {options : TransferOptions (nativeModule crates multiSig)}
    {text : String} (h : transfer options = .ok text) :
    ∃ chosen publicKey network address,
      chosenKey options.publicKey options.keyPair = .ok chosen ∧
      crates.keys.publicKeyDeserializeFrom chosen = .ok publicKey ∧
      crates.keys.multiSigAddressNew [publicKey] publicKey 1 = .ok address ∧
      options.network.name = network.name ∧
      Written crates network (crates.keys.extendedAddrFrom address) text := by
  obtain ⟨_, haccepted, h⟩ := bind_eq_ok.mp h
  obtain ⟨chosen, hchosen, h⟩ := bind_eq_ok.mp h
  obtain ⟨publicKey, hread, h⟩ := bind_eq_ok.mp h
  obtain ⟨network, hnetwork, h⟩ := bind_eq_ok.mp h
  obtain ⟨address, haddress, h⟩ := bind_eq_ok.mp h
  rw [ow_eq_ok, Option.orElse_eq_none, check_eq_none] at haccepted
  obtain ⟨-, named, hnamed⟩ := (owNetworkConfig_iff _).mp haccepted.2
  rw [hnamed, networkFromStr_name] at hnetwork
  obtain rfl := Except.ok.inj hnetwork
  exact ⟨chosen, publicKey, named, address, hchosen, chainNeon_eq_ok.mp hread,
    chainNeon_eq_ok.mp haddress, hnamed, chainNeon_eq_ok.mp h⟩

/-- A key has a transfer address on every accepted network, however it is named. -/
theorem transfer_isOk (laws : AddressLaws crates.keys) {publicKey : crates.types.PublicKey}
    {bytes : Option Buffer} {keyPair : Option (KeyPair (nativeModule crates multiSig))}
    (h : Names publicKey bytes keyPair) {config : NetworkConfig}
    (hconfig : owNetworkConfig config = true) {network : NetworkEnum}
    (hname : config.name = network.name) {address : crates.types.MultiSigAddress}
    (haddress : crates.keys.multiSigAddressNew [publicKey] publicKey 1 = .ok address)
    {text : String} (htext : Written crates network (crates.keys.extendedAddrFrom address) text) :
    transfer ⟨bytes, keyPair, config⟩ = .ok text := by
  obtain ⟨chosen, hchosen, hread⟩ := h.chosenKey laws
  refine bind_eq_ok.mpr ⟨(), ?_, bind_eq_ok.mpr ⟨chosen, hchosen, ?_⟩⟩
  · rw [ow_eq_ok, Option.orElse_eq_none, check_eq_none]
    exact ⟨h.accepted, hconfig⟩
  · refine bind_eq_ok.mpr ⟨publicKey, hread, bind_eq_ok.mpr ⟨network, ?_, ?_⟩⟩
    · simp only [hname, networkFromStr_name]
    · exact bind_eq_ok.mpr ⟨address, chainNeon_eq_ok.mpr haddress, chainNeon_eq_ok.mpr htext⟩

/-- A multi-signature builder that returns an address has a key of its own. -/
theorem own_of_createMultiSigAddress {multiSig : NativeMultiSig.MultiSigCrate crates.types}
    {b : MultiSigBuilders.Builder crates multiSig} {v : MultiSigBuilders.BuilderValue crates multiSig}
    (h : outcome (MultiSigBuilders.machine crates multiSig) b .createMultiSigAddress = .ok v) :
    ∃ own, b.keyPair.publicKey = some own := by
  obtain ⟨text, -, hcreate, -⟩ := MultiSigBuilders.createMultiSigAddress_eq_ok.mp h
  obtain ⟨_, -, hcreate⟩ := bind_eq_ok.mp hcreate
  obtain ⟨own, hown, -⟩ := bind_eq_ok.mp hcreate
  refine ⟨own, ?_⟩
  cases hpublic : b.keyPair.publicKey with
  | none =>
    rw [hpublic] at hown
    cases hown
  | some publicKey =>
    rw [hpublic] at hown
    exact congrArg some (Except.ok.inj hown)

/-- What a multi-signature builder returns is the address of its signers, written for
its network. -/
theorem written_of_createMultiSigAddress {multiSig : NativeMultiSig.MultiSigCrate crates.types}
    {b : MultiSigBuilders.Builder crates multiSig} {own : Buffer}
    (hown : b.keyPair.publicKey = some own) {text : String}
    (h : outcome (MultiSigBuilders.machine crates multiSig) b .createMultiSigAddress =
      .ok (.address text)) :
    ∃ keys key network address,
      NativeMultiSig.publicKeyVectorArgument crates b.signerPublicKeys = .ok keys ∧
      crates.keys.publicKeyDeserializeFrom own = .ok key ∧
      crates.keys.multiSigAddressNew keys key (NativeMultiSig.castUsize b.requiredSignerNumber) =
        .ok address ∧
      b.network = network.name ∧
      Written crates network (crates.keys.extendedAddrFrom address) text := by
  obtain ⟨made, hmade, hcreate, -⟩ := MultiSigBuilders.createMultiSigAddress_eq_ok.mp h
  obtain rfl := MultiSigBuilders.BuilderValue.address.inj hmade
  rw [hown] at hcreate
  obtain ⟨keys, key, network, address, hkeys, hkey, hnetwork, haddress, htext⟩ :=
    NativeMultiSig.createAddress_eq_ok.mp hcreate
  obtain ⟨named, hnamed⟩ := name_of_owNetworkEnum b.network_named
  rw [hnamed, networkFromStr_name] at hnetwork
  obtain rfl := Except.ok.inj hnetwork
  exact ⟨keys, key, named, address, hkeys, hkey, haddress, hnamed, htext⟩

/-- The three texts are told apart by their first letter. -/
theorem startsWith_addressStart {text : String} {network network' : NetworkEnum}
    (h : text.startsWith (addressStart network) = true)
    (h' : text.startsWith (addressStart network') = true) : network = network' := by
  rw [String.startsWith_string_iff] at h h'
  obtain ⟨rest, hrest⟩ := h
  obtain ⟨rest', hrest'⟩ := h'
  have hheads := congrArg List.head? (hrest.trans hrest'.symm)
  cases network <;> cases network' <;>
    first | rfl | exact absurd hheads (by simp [addressStart])

section Written
variable {network : NetworkEnum} {address : crates.types.ExtendedAddr} {text : String}

/-- The text is an address of its network only. -/
theorem isTransferAddressValid_iff (laws : AddressLaws crates.keys)
    (h : Written crates network address text) (named : NetworkEnum) :
    isTransferAddressValid crates text named.name = .ok true ↔ named = network := by
  have hread := laws.fromCro_toCro _ _ _ h
  rw [isTransferAddressValid_name, Except.ok.injEq, isOk_iff]
  constructor
  · intro hvalid
    obtain ⟨address', hread'⟩ := hvalid
    exact laws.fromCro_network _ _ _ _ _ hread' hread
  · intro hsame
    subst hsame
    exact ⟨address, hread⟩

/-- The library takes the text for an address. -/
theorem owTransferAddress_eq (laws : AddressLaws crates.keys)
    (h : Written crates network address text) :
    owTransferAddress (nativeModule crates multiSig) text = .ok none := by
  have hstart := laws.toCro_start _ _ _ h
  have hvalid : ∀ named : NetworkEnum, text.startsWith (addressStart named) = true →
      isTransferAddressValid crates text named.name = .ok true := by
    intro named hnamed
    exact (isTransferAddressValid_iff laws h named).mpr (startsWith_addressStart hnamed hstart)
  have hvalidated : validateTransferAddress (nativeModule crates multiSig) text = .ok true := by
    unfold validateTransferAddress
    split_ifs with hmain htest hdev
    · exact hvalid .mainnet hmain
    · exact hvalid .testnet htest
    · exact hvalid .devnet hdev
    · cases network with
      | mainnet => exact absurd hstart hmain
      | testnet => exact absurd hstart htest
      | devnet => exact absurd hstart hdev
  exact bind_eq_ok.mpr ⟨true, hvalidated, rfl⟩

/-- On an accepted network the text is valid exactly under the name of its own. -/
theorem valid_iff_name (laws : AddressLaws crates.keys) (h : Written crates network address text)
    {config : NetworkConfig} (hconfig : owNetworkConfig config = true) :
    isTransferAddressValid crates text config.name = .ok true ↔ config.name = network.name := by
  obtain ⟨-, named, hnamed⟩ := (owNetworkConfig_iff _).mp hconfig
  rw [hnamed, isTransferAddressValid_iff laws h]
  constructor
  · exact congrArg NetworkEnum.name
  · intro hname
    cases named <;> cases network <;> first | rfl | exact absurd hname (by decide)

end Written

/-- What `addInput` checks of an input apart from the address it spends from. -/
def owSpending (input : Input) : Prop :=
  owTxId input.prevTxId = none ∧
    (input.prevIndex.isInteger && (JsNumber.ofNat 0).le input.prevIndex) = true ∧
    owCoin input.prevOutput.value = none ∧ owInputAddressParams input.addressParams = none

section Uses
variable (crates multiSig) (runtime : Runtime)

/-- In every state of the builders of transfers and withdrawals the text is taken
for outputs, and for the outputs that inputs spend, exactly on the networks of the
name; there the native module decodes it to the address. -/
structure ReservedFor (name : String) (address : crates.types.ExtendedAddr) (text : String) :
    Prop where
  transferOutput : ∀ options s₀ s log value validFrom,
    Transfer.TransferTransactionBuilder.new options = .ok s₀ →
    Run (Transfer.machine (nativeModule crates multiSig) runtime) s₀ log s →
    ((∃ v, outcome (Transfer.machine (nativeModule crates multiSig) runtime) s
        (.addOutput ⟨text, value, validFrom⟩) = .ok v) ↔
      owCoin value = none ∧ s₀.network.name = name)
  transferInput : ∀ options s₀ s log input,
    Transfer.TransferTransactionBuilder.new options = .ok s₀ →
    Run (Transfer.machine (nativeModule crates multiSig) runtime) s₀ log s →
    input.prevOutput.address = text →
    ((∃ v, outcome (Transfer.machine (nativeModule crates multiSig) runtime) s
        (.addInput input) = .ok v) ↔
      owSpending input ∧ s₀.network.name = name)
  withdrawOutput : ∀ options s₀ s log value validFrom,
    WithdrawUnbonded.WithdrawUnbondedTransactionBuilder.new options = .ok s₀ →
    Run (WithdrawUnbonded.machine (nativeModule crates multiSig) runtime) s₀ log s →
    ((∃ v, outcome (WithdrawUnbonded.machine (nativeModule crates multiSig) runtime) s
        (.addOutput ⟨text, value, validFrom⟩) = .ok v) ↔
      owCoin value = none ∧ validFrom.isSome = true ∧
        s.outputs.length < WithdrawUnbonded.maxOutputSize ∧ s₀.network.name = name)
  decodes : ∀ config, NetworkIdentification.MatchingChainId config →
    (NetworkIdentification.AddressDecodes crates config text ↔ config.name = name) ∧
    ∀ chainHexId decoded, chainHexIdFromVec config.chainHexId = .ok chainHexId →
      parseOutputAddress crates text (networkFromChainHexId chainHexId) = .ok decoded →
      decoded = address

end Uses

theorem owOutput_iff (laws : AddressLaws crates.keys) {network : NetworkEnum}
    {address : crates.types.ExtendedAddr} {output : Output}
    (h : Written crates network address output.address) :
    owOutput (nativeModule crates multiSig) output = .ok none ↔ owCoin output.value = none := by
  rw [owOutput, owTransferAddress_eq laws h]
  simp [bind, Except.bind, pure, Except.pure]

theorem owWithdrawUnbondedOutput_iff (laws : AddressLaws crates.keys) {network : NetworkEnum}
    {address : crates.types.ExtendedAddr} {output : Output}
    (h : Written crates network address output.address) :
    owWithdrawUnbondedOutput (nativeModule crates multiSig) output = .ok none ↔
      owCoin output.value = none ∧ output.validFrom.isSome = true := by
  rw [owWithdrawUnbondedOutput, owTransferAddress_eq laws h]
  simp [bind, Except.bind, pure, Except.pure]

theorem owInput_iff (laws : AddressLaws crates.keys) {network : NetworkEnum}
    {address : crates.types.ExtendedAddr} {input : Input}
    (h : Written crates network address input.prevOutput.address) :
    owInput (nativeModule crates multiSig) input = .ok none ↔ owSpending input := by
  rw [owInput, owOutput, owTransferAddress_eq laws h]
  simp [bind, Except.bind, pure, Except.pure, owSpending, and_assoc]

/-- A text written for a network is reserved for it. -/
theorem reservedFor (laws : AddressLaws crates.keys) {runtime : Runtime} {network : NetworkEnum}
    {address : crates.types.ExtendedAddr} {text : String}
    (h : Written crates network address text) :
    ReservedFor crates multiSig runtime network.name address text where
  transferOutput options s₀ s log value validFrom hnew run := by
    have hs := (Transfer.History.start hnew).run run
    rw [Transfer.addOutput_isOk_iff, owOutput_iff laws h, ← hs.network]
    exact and_congr_right fun _ => valid_iff_name laws h s.network_accepted
  transferInput options s₀ s log input hnew run haddress := by
    have hs := (Transfer.History.start hnew).run run
    subst haddress
    rw [Transfer.addInput_isOk_iff, owInput_iff laws h, ← hs.network]
    exact and_congr_right fun _ => valid_iff_name laws h s.network_accepted
  withdrawOutput options s₀ s log value validFrom hnew run := by
    have hs := (WithdrawUnbonded.Replay.start hnew).run run
    have hvalid : s.isTransferAddressInNetwork (nativeModule crates multiSig) text = .ok true ↔
        s₀.network.name = network.name := by
      rw [← hs.network]
      exact valid_iff_name laws h s.network_accepted
    have hlength : s.outputs.length ≠ WithdrawUnbonded.maxOutputSize ↔
        s.outputs.length < WithdrawUnbonded.maxOutputSize := by
      have hle := hs.outputs_length
      omega
    rw [WithdrawUnbonded.addOutput_isOk_iff, owWithdrawUnbondedOutput_iff laws h, hvalid, hlength,
      and_assoc]
  decodes config hconfig := by
    have hread := laws.fromCro_toCro _ _ _ h
    have hsame : ∀ chainHexId, chainHexIdFromVec config.chainHexId = .ok chainHexId →
        ∀ decoded, parseOutputAddress crates text (networkFromChainHexId chainHexId) =
          .ok decoded → networkFromChainHexId chainHexId = network ∧ decoded = address := by
      intro chainHexId _ decoded hdecoded
      have hdecoded := chainNeon_eq_ok.mp hdecoded
      have hnetwork := laws.fromCro_network _ _ _ _ _ hdecoded hread
      rw [hnetwork] at hdecoded
      exact ⟨hnetwork, ok_unique hdecoded hread⟩
    obtain ⟨chainHexId, hchain, hname⟩ := (NetworkIdentification.identified_iff config).mpr hconfig
    refine ⟨?_, fun chainHexId decoded hchain hdecoded =>
      (hsame chainHexId hchain decoded hdecoded).2⟩
    constructor
    · intro hdecodes
      obtain ⟨chainHexId', decoded, hchain', hdecoded⟩ := hdecodes
      obtain rfl := ok_unique hchain hchain'
      rw [← hname, (hsame chainHexId hchain decoded hdecoded).1]
    · intro hnamed
      have hnetwork : networkFromChainHexId chainHexId = network := by
        rw [hnamed] at hname
        generalize networkFromChainHexId chainHexId = derived at hname
        cases derived <;> cases network <;> first | rfl | exact absurd hname (by decide)
      refine ⟨chainHexId, address, hchain, chainNeon_eq_ok.mpr ?_⟩
      rwa [hnetwork]

/-- The transfer addresses that the library makes: a key has one on each network,
however it is named, and each is reserved for the network it was made for. -/
structure OwnAddresses (crates : Crates) (multiSig : MultiSigModule) (runtime : Runtime) :
    Prop where
  ofOptions : ∀ (options : TransferOptions (nativeModule crates multiSig)) text,
    transfer options = .ok text →
    ∃ chosen publicKey address,
      chosenKey options.publicKey options.keyPair = .ok chosen ∧
      crates.keys.publicKeyDeserializeFrom chosen = .ok publicKey ∧
      crates.keys.multiSigAddressNew [publicKey] publicKey 1 = .ok address ∧
      ReservedFor crates multiSig runtime options.network.name
        (crates.keys.extendedAddrFrom address) text
  ofKey : ∀ publicKey config, owNetworkConfig config = true →
    ∃ address text, crates.keys.multiSigAddressNew [publicKey] publicKey 1 = .ok address ∧
      (∀ bytes (keyPair : Option (KeyPair (nativeModule crates multiSig))),
        Names publicKey bytes keyPair → transfer ⟨bytes, keyPair, config⟩ = .ok text) ∧
      ReservedFor crates multiSig runtime config.name (crates.keys.extendedAddrFrom address) text
  ofSigners : ∀ (crate : NativeMultiSig.MultiSigCrate crates.types) selfKeyPair
    coSignerPublicKeys network requiredSignerNumber b₀ b log text,
    MultiSigBuilders.new crates crate selfKeyPair coSignerPublicKeys network
      requiredSignerNumber = .ok b₀ →
    Run (MultiSigBuilders.machine crates crate) b₀ log b →
    outcome (MultiSigBuilders.machine crates crate) b .createMultiSigAddress =
      .ok (.address text) →
    ∃ own keys key address, selfKeyPair.publicKey = some own ∧
      NativeMultiSig.publicKeyVectorArgument crates
        (MultiSigBuilders.joinKeys coSignerPublicKeys (some own)) = .ok keys ∧
      crates.keys.publicKeyDeserializeFrom own = .ok key ∧
      crates.keys.multiSigAddressNew keys key (NativeMultiSig.castUsize requiredSignerNumber) =
        .ok address ∧
      ReservedFor crates multiSig runtime network (crates.keys.extendedAddrFrom address) text

/-- A transfer address that the library makes can be paid and spent exactly on the
network it was made for. -/
theorem own_addresses (laws : AddressLaws crates.keys) {runtime : Runtime} :
    OwnAddresses crates multiSig runtime where
  ofOptions options text h := by
    obtain ⟨chosen, publicKey, network, address, hchosen, hread, haddress, hname, htext⟩ :=
      written_of_transfer h
    refine ⟨chosen, publicKey, address, hchosen, hread, haddress, ?_⟩
    rw [hname]
    exact reservedFor laws htext
  ofKey publicKey config hconfig := by
    obtain ⟨-, network, hname⟩ := (owNetworkConfig_iff _).mp hconfig
    obtain ⟨address, _, haddress, -⟩ := laws.singleKey publicKey
    obtain ⟨text, htext⟩ := laws.toCro (crates.keys.extendedAddrFrom address) network
    refine ⟨address, text, haddress, fun bytes keyPair hnames => ?_, ?_⟩
    · exact transfer_isOk laws hnames hconfig hname haddress htext
    · rw [hname]
      exact reservedFor laws htext
  ofSigners crate selfKeyPair coSignerPublicKeys network requiredSignerNumber b₀ b log text hnew run
      h := by
    have hbuilt := MultiSigBuilders.Built.run hnew run
    obtain ⟨own, hown⟩ := own_of_createMultiSigAddress h
    obtain ⟨keys, key, named, address, hkeys, hkey, haddress, hnamed, htext⟩ :=
      written_of_createMultiSigAddress hown h
    rw [hbuilt.signerPublicKeys, ← hbuilt.keyPair, hown] at hkeys
    rw [hbuilt.requiredSignerNumber] at haddress
    refine ⟨own, keys, key, address, by rw [← hbuilt.keyPair, hown], hkeys, hkey, haddress, ?_⟩
    rw [← hbuilt.network, hnamed]
    exact reservedFor laws htext

/-- The address of a key on Mainnet is paid on Mainnet and refused on Devnet. -/
theorem own_addresses_mainnet :
    (∃ v, outcome (Transfer.machine Crates.Sample.module Native.Sample.runtime)
      Transfer.Sample.start
      (.addOutput ⟨Crates.Sample.transferAddress 7, .ofNat 1, none⟩) = .ok v) ∧
    ¬ ∃ v, outcome (Transfer.machine Crates.Sample.module Native.Sample.runtime)
      NetworkIdentification.Sample.start
      (.addOutput ⟨Crates.Sample.transferAddress 7, .ofNat 1, none⟩) = .ok v := by
  have hown : OwnAddresses Crates.Sample.crates Native.Sample.module.multiSig
      Native.Sample.runtime := own_addresses Sample.address_laws
  have htext : transfer ⟨none, some (Crates.Sample.keyPair 7), mainnet⟩ =
      .ok (Crates.Sample.transferAddress 7) := by decide +kernel
  obtain ⟨_, _, address, -, -, -, hreserved⟩ := hown.ofOptions _ _ htext
  have hdevnet : Transfer.TransferTransactionBuilder.new NetworkIdentification.Sample.options =
      .ok NetworkIdentification.Sample.start :=
    Transfer.TransferTransactionBuilder.new_eq_ok.mpr
      ⟨NetworkIdentification.Sample.options_accepted, rfl⟩
  constructor
  · apply (hreserved.transferOutput none Transfer.Sample.start Transfer.Sample.start []
      (.ofNat 1) none Transfer.Sample.new_options .start).mpr
    decide +kernel
  · intro haccepted
    have hname := ((hreserved.transferOutput NetworkIdentification.Sample.options
      NetworkIdentification.Sample.start NetworkIdentification.Sample.start [] (.ofNat 1) none
      hdevnet .start).mp haccepted).2
    revert hname
    decide +kernel

end ThalerNodelib.Addresses
