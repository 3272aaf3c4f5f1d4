import ThalerNodelib.KeyPairs
import ThalerNodelib.NativeFromCrates

/-!
When the native module signs and exports: a key pair signs if it holds a
private key, and a staking transaction is exported if its witnesses are
encodings of witnesses.
-/
namespace ThalerNodelib.NativeExport

open Js Native Network Crates KeyPairs FunctionTypes NativeStaking NativeFromCrates

variable {crates : Crates} {multiSig : MultiSigModule}

/-- The bytes start with the encoding of a witness of an input. -/
def InWitness (crates : Crates) (bytes : Buffer) : Prop :=
  ∃ witness, crates.transactions.txInWitness.read bytes = .ok witness

/-- The bytes start with the encoding of a witness of a staking transaction. -/
def OpWitness (crates : Crates) (bytes : Buffer) : Prop :=
  ∃ witness, crates.transactions.stakedStateOpWitness.read bytes = .ok witness

/-! Key pairs. -/

section Signing
variable (laws : SigningLaws crates.keys)
include laws

/-- The native module reads the private key of a key pair, with its public key. -/
theorem parseKeyPair_eq_ok {keyPair : KeyPair (nativeModule crates multiSig)}
    (h : keyPair.hasPrivateKey = true) :
    ∃ secret privateKey, keyPair.innerPrivateKey = some secret ∧
      crates.keys.privateKeyDeserializeFrom secret = .ok privateKey ∧
      parseKeyPair crates keyPair.toObject =
        .ok (privateKey, crates.keys.publicKeyFrom privateKey) := by
  obtain ⟨secret, publicBytes, compressed, hsecret, hpublic, hverify, hkeys⟩ :=
    KeyPair.hasPrivateKey_origin h
  obtain ⟨privateKey, hprivate, -⟩ := bind_eq_ok.mp hverify
  have hprivate := chainNeon_eq_ok.mp hprivate
  obtain ⟨privateKey', hprivate', hkeys⟩ := bind_eq_ok.mp hkeys
  obtain rfl : privateKey = privateKey' :=
    ok_unique hprivate (chainNeon_eq_ok.mp hprivate')
  have hbytes : publicKeys crates (crates.keys.publicKeyFrom privateKey) =
      (publicBytes, compressed) := Except.ok.inj hkeys
  have hread : crates.keys.publicKeyDeserializeFrom publicBytes =
      .ok (crates.keys.publicKeyFrom privateKey) := by
    have hserialized : crates.keys.publicKeySerialize (crates.keys.publicKeyFrom privateKey) =
        publicBytes := congrArg Prod.fst hbytes
    rw [← hserialized]
    exact laws.publicKey_read _
  refine ⟨secret, privateKey, hsecret, hprivate, ?_⟩
  have hobject : keyPair.toObject = ⟨some secret, keyPair.compressedPublicKey, some publicBytes⟩ := by
    simp only [KeyPair.toObject, KeyPair.privateKey, KeyPair.publicKey, hsecret, hpublic]
  rw [hobject, parseKeyPair]
  simp only [downcastBuffer_some, hread, hprivate, chainNeon_ok, bind, Except.bind]
  rfl

/-- The native module reads a key pair if there is a private key in it. -/
theorem parseKeyPair_isOk_iff (keyPair : KeyPair (nativeModule crates multiSig)) :
    (∃ keys, parseKeyPair crates keyPair.toObject = .ok keys) ↔ keyPair.hasPrivateKey = true := by
  constructor
  · intro hread
    obtain ⟨keys, hkeys⟩ := hread
    obtain ⟨_, -, hkeys⟩ := bind_eq_ok.mp hkeys
    obtain ⟨_, -, hkeys⟩ := bind_eq_ok.mp hkeys
    obtain ⟨privateKey, hprivate, -⟩ := bind_eq_ok.mp hkeys
    have hprivate := (chainThrow_eq_ok crates).mp hprivate
    cases hsecret : keyPair.innerPrivateKey with
    | none =>
      have hnone : keyPair.toObject.privateKey = none := hsecret
      rw [hnone] at hprivate
      cases hprivate
    | some secret => simp [KeyPair.hasPrivateKey, hsecret]
  · intro h
    obtain ⟨secret, privateKey, -, -, hkeys⟩ := parseKeyPair_eq_ok laws h
    exact ⟨_, hkeys⟩

theorem signer_isOk (privateKey : crates.types.PrivateKey) (publicKey : crates.types.PublicKey) :
    ∃ signer, KeyPairSigner.new crates privateKey publicKey = .ok signer ∧
      signer.privateKey = privateKey := by
  obtain ⟨address, proof, haddress, hproof⟩ := laws.singleKey publicKey
  refine ⟨{ proof := proof, privateKey := privateKey }, ?_, rfl⟩
  simp only [KeyPairSigner.new, KeyPairSigner.generateExtendedAddrAndProof, haddress, hproof, bind,
    Except.bind]
  rfl

/-- An id is signed with the private key of the key pair. -/
theorem signId_eq_ok (id : H256) {keyPair : KeyPair (nativeModule crates multiSig)}
    (h : keyPair.hasPrivateKey = true) :
    ∃ secret privateKey message, keyPair.innerPrivateKey = some secret ∧
      crates.keys.privateKeyDeserializeFrom secret = .ok privateKey ∧
      crates.keys.messageFromSlice id.val = .ok message ∧
      signId crates id keyPair.toObject = .ok (crates.transactions.stakedStateOpWitnessNew
        (crates.keys.signRecoverable message privateKey)) := by
  obtain ⟨secret, privateKey, hsecret, hprivate, hkeys⟩ := parseKeyPair_eq_ok laws h
  obtain ⟨signer, hsigner, hkey⟩ :=
    signer_isOk laws privateKey (crates.keys.publicKeyFrom privateKey)
  obtain ⟨message, hmessage⟩ := laws.message id.val id.property
  have hsign : signer.sign crates id.val = .ok (crates.keys.signRecoverable message privateKey) := by
    simp only [KeyPairSigner.sign, KeyPairSigner.messageToSign, hmessage, hkey, bind, Except.bind,
      pure, Except.pure]
  refine ⟨secret, privateKey, message, hsecret, hprivate, hmessage, ?_⟩
  refine bind_eq_ok.mpr ⟨_, hkeys, ?_⟩
  refine bind_eq_ok.mpr ⟨signer, chainNeon_eq_ok.mpr hsigner, ?_⟩
  exact bind_eq_ok.mpr ⟨_, chainNeon_eq_ok.mpr hsign, rfl⟩

theorem signId_isOk_iff (id : H256) (keyPair : KeyPair (nativeModule crates multiSig)) :
    (∃ witness, signId crates id keyPair.toObject = .ok witness) ↔
      keyPair.hasPrivateKey = true := by
  constructor
  · intro h
    obtain ⟨witness, hwitness⟩ := h
    obtain ⟨keys, hkeys, -⟩ := bind_eq_ok.mp hwitness
    exact (parseKeyPair_isOk_iff laws keyPair).mp ⟨keys, hkeys⟩
  · intro h
    obtain ⟨_, _, _, -, -, -, hsign⟩ := signId_eq_ok laws id h
    exact ⟨_, hsign⟩

end Signing

/-! Raw transactions. -/

theorem buildRawDepositTransaction_eq_ok {options : BuildRawDepositTransactionOptions}
    {rawTx : RawTx} (h : buildRawDepositTransaction crates options = .ok rawTx) :
    (∃ chainHexId, options.chainHexId = [chainHexId]) ∧
      ∃ tx, rawTx = rawTxObject crates.transactions.depositBondTx tx := by
  obtain ⟨inputs, -, h⟩ := bind_eq_ok.mp h
  obtain ⟨toAddress, -, h⟩ := bind_eq_ok.mp h
  obtain ⟨chainHexId, hchain, h⟩ := bind_eq_ok.mp h
  exact ⟨⟨chainHexId, chainHexIdFromVec_eq_ok.mp hchain⟩, _, (Except.ok.inj h).symm⟩

/-- With accepted pointers and address only the chain id can be refused. -/
theorem buildRawDepositTransaction_isOk (options : BuildRawDepositTransactionOptions)
    (hinputs : ∀ pointer ∈ options.inputs, Types.owPrevOutputPointer pointer = none)
    (haddress : isStakingAddressValid crates options.toAddress = .ok true)
    (hchain : ∃ chainHexId, options.chainHexId = [chainHexId]) :
    ∃ rawTx, buildRawDepositTransaction crates options = .ok rawTx := by
  obtain ⟨chainHexId, hchain⟩ := hchain
  have hpointers : ∃ inputs, parsePrevOutputPointerVec options.inputs = .ok inputs := by
    refine mapM_isOk fun pointer hpointer => ?_
    have hid := ((Option.orElse_eq_none _ _).mp (hinputs pointer hpointer)).1
    obtain ⟨id, hid⟩ := txidFromStr_ok hid
    exact ⟨_, bind_eq_ok.mpr ⟨id, hid, rfl⟩⟩
  obtain ⟨inputs, hinputs⟩ := hpointers
  obtain ⟨toAddress, haddress⟩ := (isOk_iff _).mp (Except.ok.inj haddress)
  exact ⟨_, bind_eq_ok.mpr ⟨inputs, hinputs, bind_eq_ok.mpr ⟨toAddress,
    chainNeon_eq_ok.mpr haddress,
    bind_eq_ok.mpr ⟨chainHexId, chainHexIdFromVec_eq_ok.mpr hchain, rfl⟩⟩⟩⟩

/-- What a withdrawal was built from. -/
theorem buildRawWithdrawUnbondedTransaction_eq_ok
    {options : BuildRawWithdrawUnbondedTransactionOptions} {rawTx : RawTx}
    (h : buildRawWithdrawUnbondedTransaction crates options = .ok rawTx) :
    ∃ nonce chainHexId outputs, parseAccountNonce options.nonce = .ok nonce ∧
      chainHexIdFromVec options.chainHexId = .ok chainHexId ∧
      options.outputs.mapM (fun output => parseOutput crates output
        (networkFromChainHexId chainHexId)) = .ok outputs ∧
      ∃ tx, tx.outputs = outputs ∧
        rawTx = rawTxObject crates.transactions.withdrawUnbondedTx tx := by
  obtain ⟨nonce, hnonce, h⟩ := bind_eq_ok.mp h
  obtain ⟨chainHexId, hchain, h⟩ := bind_eq_ok.mp h
  obtain ⟨outputs, houtputs, h⟩ := bind_eq_ok.mp h
  obtain ⟨viewKeys, -, h⟩ := bind_eq_ok.mp h
  exact ⟨nonce, chainHexId, outputs, hnonce, hchain, houtputs, _, rfl, (Except.ok.inj h).symm⟩

theorem buildRawWithdrawUnbondedTransaction_isOk
    (options : BuildRawWithdrawUnbondedTransactionOptions) {nonce : UInt64} {chainHexId : UInt8}
    (hnonce : parseAccountNonce options.nonce = .ok nonce)
    (hchain : chainHexIdFromVec options.chainHexId = .ok chainHexId)
    (houtputs : ∀ output ∈ options.outputs, ∃ txOut, parseOutput crates output
      (networkFromChainHexId chainHexId) = .ok txOut)
    (hviewKeys : ∀ viewKey ∈ options.viewKeys, isValidViewKey crates viewKey = .ok true) :
    ∃ rawTx, buildRawWithdrawUnbondedTransaction crates options = .ok rawTx := by
  obtain ⟨outputs, houtputs⟩ := mapM_isOk houtputs
  have hkeys : ∃ keys, options.viewKeys.mapM (parseViewKey crates) = .ok keys := by
    refine mapM_isOk fun viewKey hmem => ?_
    obtain ⟨key, hkey⟩ := (isOk_iff _).mp (Except.ok.inj (hviewKeys viewKey hmem))
    exact ⟨key, chainNeon_eq_ok.mpr hkey⟩
  obtain ⟨keys, hkeys⟩ := hkeys
  exact ⟨_, bind_eq_ok.mpr ⟨nonce, hnonce, bind_eq_ok.mpr ⟨chainHexId, hchain,
    bind_eq_ok.mpr ⟨outputs, houtputs, bind_eq_ok.mpr ⟨keys, hkeys, rfl⟩⟩⟩⟩⟩

/-- The witnesses of a deposit are read if each is given and decodes. -/
theorem txInWitnessVecArgument_isOk_iff (witnesses : List (Option Buffer)) :
    (∃ ws, txInWitnessVecArgument crates witnesses = .ok ws) ↔
      ∀ witness ∈ witnesses, ∃ bytes, witness = some bytes ∧ InWitness crates bytes := by
  unfold txInWitnessVecArgument
  rw [mapM_isOk_iff]
  refine forall₂_congr fun witness _ => ?_
  constructor
  · intro h
    obtain ⟨w, hw⟩ := h
    obtain ⟨bytes, hbytes, hw⟩ := bind_eq_ok.mp hw
    cases witness with
    | none => cases hbytes
    | some given =>
      obtain rfl := Except.ok.inj hbytes
      exact ⟨given, rfl, w, chainNeon_eq_ok.mp hw⟩
  · intro h
    obtain ⟨bytes, rfl, w, hw⟩ := h
    exact ⟨w, bind_eq_ok.mpr ⟨bytes, rfl, chainNeon_eq_ok.mpr hw⟩⟩

section Export
variable (laws : ExportLaws crates)
include laws

/-- An unbond, node join or unjail transaction is exported if its key pair signs. -/
theorem publicTransactionToHex_isOk_iff {α : Type} {format : TransactionFormat α}
    (hformat : format.codec.Lawful)
    (publicAux : α → crates.types.StakedStateOpWitness → TxPublicAux crates.types) (tx : α)
    (keyPair : KeyPair (nativeModule crates multiSig)) :
    (∃ hex, publicTransactionToHex crates format publicAux
      (some (rawTxObject format tx).unsignedRawTx) keyPair.toObject = .ok hex) ↔
      keyPair.hasPrivateKey = true := by
  rw [← signId_isOk_iff laws.toSigningLaws (format.id tx) keyPair]
  have htx := txArgument_rawTxObject crates hformat tx
  constructor
  · intro h
    obtain ⟨hex, hhex⟩ := h
    obtain ⟨tx', htx', hhex⟩ := bind_eq_ok.mp hhex
    obtain rfl : tx = tx' := ok_unique htx htx'
    obtain ⟨signature, hsign, -⟩ := bind_eq_ok.mp hhex
    exact ⟨signature, hsign⟩
  · intro h
    obtain ⟨signature, hsign⟩ := h
    exact ⟨_, bind_eq_ok.mpr ⟨tx, htx, bind_eq_ok.mpr ⟨signature, hsign, rfl⟩⟩⟩

/-- On an address of the accepted form every deposit and withdrawal is obfuscated. -/
theorem signedTransactionToTxAux_isOk {address : String} (haddress : address.startsWith "ws" = true)
    (features : Features) (transaction : SignedTransaction crates.types)
    (htransaction : ∀ tx witness, transaction ≠ .transferTransaction tx witness) :
    ∃ txAux, signedTransactionToTxAux crates transaction address features = .ok txAux := by
  obtain ⟨client, hclient⟩ := laws.client address
  have hwebsocket : websocketClient crates address = .ok client := by
    rw [websocketClient, haddress, hclient]
    rfl
  cases features with
  | allDefault =>
    obtain ⟨encrypt, hencrypt, hall⟩ := laws.defaultEncrypt client
    obtain ⟨txAux, haux⟩ := hall transaction
    exact ⟨txAux, bind_eq_ok.mpr ⟨client, hwebsocket,
      bind_eq_ok.mpr ⟨encrypt, chainNeon_eq_ok.mpr hencrypt, chainNeon_eq_ok.mpr haux⟩⟩⟩
  | mockAbci =>
    obtain ⟨txAux, haux⟩ := laws.mockAbciEncrypt client transaction
    exact ⟨txAux, bind_eq_ok.mpr ⟨client, hwebsocket, chainNeon_eq_ok.mpr haux⟩⟩
  | mockObfuscation =>
    cases transaction with
    | transferTransaction tx witness => exact absurd rfl (htransaction tx witness)
    | depositStakeTransaction tx witness => exact ⟨_, rfl⟩
    | withdrawUnbondedStakeTransaction tx witness => exact ⟨_, rfl⟩

/-- A deposit is exported if each of its witnesses decodes. -/
theorem depositTransactionToHex_isOk_iff (tx : DepositBondTx crates.types)
    (witnesses : List (Option Buffer)) {address : String}
    (haddress : address.startsWith "ws" = true) (features : Features) :
    (∃ hex, depositTransactionToHex crates
      (some (rawTxObject crates.transactions.depositBondTx tx).unsignedRawTx) witnesses address
      features = .ok hex) ↔
      ∀ witness ∈ witnesses, ∃ bytes, witness = some bytes ∧ InWitness crates bytes := by
  have htx := txArgument_rawTxObject crates laws.depositBondTx tx
  rw [← txInWitnessVecArgument_isOk_iff]
  constructor
  · intro h
    obtain ⟨hex, hhex⟩ := h
    obtain ⟨tx', -, hhex⟩ := bind_eq_ok.mp hhex
    obtain ⟨ws, hws, -⟩ := bind_eq_ok.mp hhex
    exact ⟨ws, hws⟩
  · intro h
    obtain ⟨ws, hws⟩ := h
    obtain ⟨txAux, haux⟩ := signedTransactionToTxAux_isOk laws haddress features
      (.depositStakeTransaction tx ws) nofun
    exact ⟨_, bind_eq_ok.mpr ⟨tx, htx, bind_eq_ok.mpr ⟨ws, hws,
      bind_eq_ok.mpr ⟨txAux, haux, rfl⟩⟩⟩⟩

/-- A withdrawal is exported if its witness decodes. -/
theorem withdrawUnbondedTransactionToObfuscatedHex_isOk_iff
    (tx : WithdrawUnbondedTx crates.types) (witness : Buffer) {address : String}
    (haddress : address.startsWith "ws" = true) (features : Features) :
    (∃ hex, withdrawUnbondedTransactionToObfuscatedHex crates
      (some (rawTxObject crates.transactions.withdrawUnbondedTx tx).unsignedRawTx) (some witness)
      address features = .ok hex) ↔ OpWitness crates witness := by
  have htx := txArgument_rawTxObject crates laws.withdrawUnbondedTx tx
  constructor
  · intro h
    obtain ⟨hex, hhex⟩ := h
    obtain ⟨tx', -, hhex⟩ := bind_eq_ok.mp hhex
    obtain ⟨bytes, hbytes, hhex⟩ := bind_eq_ok.mp hhex
    obtain rfl := Except.ok.inj hbytes
    obtain ⟨w, hw, -⟩ := bind_eq_ok.mp hhex
    exact ⟨w, chainNeon_eq_ok.mp hw⟩
  · intro h
    obtain ⟨w, hw⟩ := h
    obtain ⟨txAux, haux⟩ := signedTransactionToTxAux_isOk laws haddress features
      (.withdrawUnbondedStakeTransaction tx w) nofun
    refine ⟨txAuxToHex crates txAux, bind_eq_ok.mpr ⟨tx, htx, bind_eq_ok.mpr ⟨witness, rfl, ?_⟩⟩⟩
    refine bind_eq_ok.mpr ⟨w, chainNeon_eq_ok.mpr hw, ?_⟩
    exact bind_eq_ok.mpr ⟨txAux, (chainThrow_eq_ok crates).mpr haux, rfl⟩

end Export
end ThalerNodelib.NativeExport
