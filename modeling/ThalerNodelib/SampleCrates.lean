import ThalerNodelib.KeyPairs
import ThalerNodelib.NativeFromCrates

/-!
Crates to run the native module on. Addresses are hex after the prefix of their
network, a signature shows its message and its key, an id is the end of what it
identifies, and the formats are those of the chain for lists shorter than 2^30.
-/
namespace ThalerNodelib.Crates.Sample

open Js Native Network FunctionTypes

abbrev Bytes (n : ℕ) := { bytes : Buffer // bytes.length = n }

def fixed (n : ℕ) (bytes : Buffer) : Bytes n :=
  ⟨(bytes ++ List.replicate n 0).take n, by simp⟩

def ofLength (n : ℕ) (failure : String) (bytes : Buffer) : Except String (Bytes n) :=
  if h : bytes.length = n then .ok ⟨bytes, h⟩ else .error failure

def types : ChainTypes where
  ExtendedAddr := Bytes 32
  StakedStateAddress := Bytes 20
  Coin := UInt64
  Milli := String
  Fee := ℕ
  PublicKey := Bytes 33
  PrivateKey := Bytes 32
  MultiSigAddress := Bytes 33
  Proof := Bytes 33
  Message := Bytes 32
  SchnorrSignature := Bytes 64
  RecoverableSignature := Bytes 65
  TxInWitness := Bytes 64 × Bytes 33
  StakedStateOpWitness := Bytes 65
  CouncilNode := Buffer
  WebsocketRpcClient := String

def addressPrefix (network : NetworkEnum) : List Char :=
  match network with
  | .mainnet => "cro1".toList
  | .testnet => "tcro1".toList
  | .devnet => "dcro1".toList

def prefixed (start : List Char) (n : ℕ) (text : String) : Except String (Bytes n) :=
  match start.isPrefixOf? (byteChars text) with
  | none => .error "invalid prefix"
  | some digits => do ofLength n "invalid length" (← hexDecodeFrom 0 digits)

/-- The longer serialisation of a public key ends with the first byte of the shorter. -/
def publicKeySerialize (publicKey : Bytes 33) : Buffer :=
  4 :: publicKey.val.drop 1 ++ List.replicate 31 0 ++ publicKey.val.take 1

def publicKeyDeserializeFrom (bytes : Buffer) : Except String (Bytes 33) :=
  if bytes.length = 65 then .ok (fixed 33 (bytes.drop 64 ++ (bytes.drop 1).take 32))
  else ofLength 33 "malformed public key" bytes

def keys : KeyCrate types where
  fromCro text network := prefixed (addressPrefix network) 32 text
  toCro address network :=
    .ok (String.ofList (addressPrefix network ++ hexChars false address.val))
  stakedStateAddressFromStr text := prefixed "0x".toList 20 text
  stakedStateAddressToString address := "0x" ++ hexEncode address.val
  stakedStateAddressEq := inferInstanceAs (DecidableEq (Bytes 20))
  basicRedeem publicKey := fixed 20 (publicKey.val.drop 1)
  publicKeyFromStr text := do publicKeyDeserializeFrom (← hexDecode text)
  publicKeyDeserializeFrom := publicKeyDeserializeFrom
  publicKeySerialize := publicKeySerialize
  publicKeySerializeCompressed publicKey := publicKey.val
  publicKeyFrom privateKey := fixed 33 (2 :: privateKey.val)
  privateKeyDeserializeFrom := ofLength 32 "malformed or out-of-range secret key"
  multiSigAddressNew publicKeys _ _ :=
    match publicKeys with
    | [] => .error "Total signers cannot be zero"
    | publicKey :: _ => .ok publicKey
  generateProof address _ := .ok (some address)
  extendedAddrFrom address := fixed 32 (address.val.drop 1)
  messageFromSlice := ofLength 32 "malformed message"
  signRecoverable message privateKey := fixed 65 (2 :: privateKey.val ++ message.val)
  schnorrSign message privateKey := fixed 64 (privateKey.val ++ message.val)
  clientError kind message source := kind ++ ": " ++ message ++ " " ++ source.getD ""

def failure : String := "Not enough data to fill buffer"

def h256 : Codec String H256 := Codec.bytes failure 32

def txoPointer : Codec String TxoPointer :=
  (h256.pair (Codec.uint16 failure)).map (fun p => ⟨p.1, p.2⟩) fun p => (p.id, p.index)

def txOut : Codec String (TxOut types) :=
  (((Codec.bytes failure 32).variant failure 0).pair
    ((Codec.uint64 failure).pair ((Codec.uint64 failure).option failure))).map
    (fun p => ⟨p.1, p.2.1, p.2.2⟩) fun p => (p.address, p.value, p.validFrom)

def txAttributes : Codec String (TxAttributes types) :=
  ((Codec.byte failure).pair
    ((((Codec.bytes failure 33).variant failure 0).map
      (fun viewKey => (⟨viewKey, .allData⟩ : TxAccessPolicy types)) fun p => p.viewKey).list
      failure)).map (fun p => ⟨p.1, p.2⟩) fun p => (p.chainHexId, p.allowedView)

def opAttributes : Codec String StakedStateOpAttributes :=
  (Codec.byte failure).map (fun chainHexId => ⟨chainHexId⟩) fun p => p.chainHexId

def address : Codec String types.StakedStateAddress := (Codec.bytes failure 20).variant failure 0

def digest (bytes : Buffer) : H256 := fixed 32 bytes.reverse

/-- A transaction is identified by its encoding. -/
def format {α : Type} (codec : Codec String α) : TransactionFormat α where
  codec := codec
  id tx := digest (codec.encode tx)

def depositBondTx : Codec String (DepositBondTx types) :=
  ((txoPointer.list failure).pair (address.pair opAttributes)).map
    (fun p => ⟨p.1, p.2.1, p.2.2⟩) fun p => (p.inputs, p.toStakedAccount, p.attributes)

def unbondTx : Codec String (UnbondTx types) :=
  (address.pair ((Codec.uint64 failure).pair ((Codec.uint64 failure).pair opAttributes))).map
    (fun p => ⟨p.1, p.2.1, p.2.2.1, p.2.2.2⟩)
    fun p => (p.fromStakedAccount, p.nonce, p.value, p.attributes)

def withdrawUnbondedTx : Codec String (WithdrawUnbondedTx types) :=
  ((Codec.uint64 failure).pair ((txOut.list failure).pair txAttributes)).map
    (fun p => ⟨p.1, p.2.1, p.2.2⟩) fun p => (p.nonce, p.outputs, p.attributes)

def nodeJoinRequestTx : Codec String (NodeJoinRequestTx types) :=
  ((Codec.uint64 failure).pair
    (address.pair (opAttributes.pair ((Codec.byte failure).list failure)))).map
    (fun p => ⟨p.1, p.2.1, p.2.2.1, p.2.2.2⟩)
    fun p => (p.nonce, p.address, p.attributes, p.nodeMeta)

def unjailTx : Codec String (UnjailTx types) :=
  ((Codec.uint64 failure).pair (address.pair opAttributes)).map
    (fun p => ⟨p.1, p.2.1, p.2.2⟩) fun p => (p.nonce, p.address, p.attributes)

def tx : Codec String (Tx types) :=
  ((txoPointer.list failure).pair ((txOut.list failure).pair txAttributes)).map
    (fun p => ⟨p.1, p.2.1, p.2.2⟩) fun p => (p.inputs, p.outputs, p.attributes)

def txInWitness : Codec String types.TxInWitness :=
  ((Codec.bytes failure 64).pair (Codec.bytes failure 33)).variant failure 0

def stakedStateOpWitness : Codec String types.StakedStateOpWitness :=
  (Codec.bytes failure 65).variant failure 0

def payload : Codec String TxObfuscated :=
  (h256.pair ((Codec.uint64 failure).pair
    (((Codec.byte failure).list failure).pair ((Codec.byte failure).list failure)))).map
    (fun p => ⟨p.1, p.2.1, p.2.2.1, p.2.2.2⟩)
    fun p => (p.txid, p.keyFrom, p.initVector, p.txpayload)

def signedTransactionEncode : SignedTransaction types → Buffer
  | .transferTransaction t witness => 0 :: (tx.pair (txInWitness.list failure)).encode (t, witness)
  | .depositStakeTransaction t witness =>
    1 :: (depositBondTx.pair (txInWitness.list failure)).encode (t, witness)
  | .withdrawUnbondedStakeTransaction t witness =>
    2 :: (withdrawUnbondedTx.pair stakedStateOpWitness).encode (t, witness)

def transferAux : Codec String (List TxoPointer × UInt16 × TxObfuscated) :=
  (txoPointer.list failure).pair ((Codec.uint16 failure).pair payload)

def withdrawAux : Codec String (UInt16 × types.StakedStateOpWitness × TxObfuscated) :=
  (Codec.uint16 failure).pair (stakedStateOpWitness.pair payload)

/-- One byte for the variant of `TxAux` and one for that of its part. -/
def txAux : Codec String (TxAux types) where
  encode
    | .enclaveTx (.transferTx inputs noOfOutputs p) =>
      0 :: 0 :: transferAux.encode (inputs, noOfOutputs, p)
    | .enclaveTx (.depositStakeTx t p) => 0 :: 1 :: (depositBondTx.pair payload).encode (t, p)
    | .enclaveTx (.withdrawUnbondedStakeTx noOfOutputs witness p) =>
      0 :: 2 :: withdrawAux.encode (noOfOutputs, witness, p)
    | .publicTx (.unbondStakeTx t witness) =>
      1 :: 0 :: (unbondTx.pair stakedStateOpWitness).encode (t, witness)
    | .publicTx (.unjailTx t witness) =>
      1 :: 1 :: (unjailTx.pair stakedStateOpWitness).encode (t, witness)
    | .publicTx (.nodeJoinTx t witness) =>
      1 :: 2 :: (nodeJoinRequestTx.pair stakedStateOpWitness).encode (t, witness)
  decode
    | 0 :: 0 :: rest => (transferAux.decode rest).map fun (p, rest) =>
      (.enclaveTx (.transferTx p.1 p.2.1 p.2.2), rest)
    | 0 :: 1 :: rest => ((depositBondTx.pair payload).decode rest).map fun (p, rest) =>
      (.enclaveTx (.depositStakeTx p.1 p.2), rest)
    | 0 :: 2 :: rest => (withdrawAux.decode rest).map fun (p, rest) =>
      (.enclaveTx (.withdrawUnbondedStakeTx p.1 p.2.1 p.2.2), rest)
    | 1 :: 0 :: rest => ((unbondTx.pair stakedStateOpWitness).decode rest).map fun (p, rest) =>
      (.publicTx (.unbondStakeTx p.1 p.2), rest)
    | 1 :: 1 :: rest => ((unjailTx.pair stakedStateOpWitness).decode rest).map fun (p, rest) =>
      (.publicTx (.unjailTx p.1 p.2), rest)
    | 1 :: 2 :: rest =>
      ((nodeJoinRequestTx.pair stakedStateOpWitness).decode rest).map fun (p, rest) =>
        (.publicTx (.nodeJoinTx p.1 p.2), rest)
    | _ => .error failure

/-- A signature recovers the key that it shows, for the message that it shows. -/
def verifyTxRecoverAddress (witness : Bytes 65) (id : H256) : Except String (Bytes 20) :=
  if witness.val.drop 33 = id.val then .ok (fixed 20 (witness.val.drop 1))
  else .error "verification failed"

/-- Coins are at most 10^19. -/
def coinFromStr (text : String) : Except String UInt64 := do
  let value ← parseU64 text
  if value.toNat ≤ 10 ^ 19 then return value else throw "Coin amount exceeds the supply"

def transactions : TransactionCrate types where
  coinFromStr := coinFromStr
  milliFromStr text := .ok text
  councilNodeFromJson text := .ok text.toUTF8.toList
  treeSig signature proof := (signature, proof)
  stakedStateOpWitnessNew signature := signature
  txInWitness := txInWitness
  stakedStateOpWitness := stakedStateOpWitness
  depositBondTx := format depositBondTx
  unbondTx := format unbondTx
  withdrawUnbondedTx := format withdrawUnbondedTx
  nodeJoinRequestTx := format nodeJoinRequestTx
  unjailTx := format unjailTx
  tx := format tx
  signedTransactionEncode := signedTransactionEncode
  txAux := txAux
  mockTxauxForWithdraw t := .enclaveTx (.withdrawUnbondedStakeTx 0 (fixed 65 [])
    ⟨digest [], 0, [], withdrawUnbondedTx.encode t⟩)
  calculateForTxaux _ aux := .ok (txAux.encode aux).length
  feeToJson fee := .ok (String.singleton '"' ++ Nat.repr fee ++ String.singleton '"')
  verifyTxRecoverAddress := verifyTxRecoverAddress

/-- The obfuscation shows what it hides. -/
def encrypt (transaction : SignedTransaction types) : TxAux types :=
  let hidden (id : H256) : TxObfuscated := ⟨id, 0, [], signedTransactionEncode transaction⟩
  match transaction with
  | .transferTransaction t _ =>
    .enclaveTx (.transferTx t.inputs (UInt16.ofNat t.outputs.length) (hidden (digest (tx.encode t))))
  | .depositStakeTransaction t _ =>
    .enclaveTx (.depositStakeTx t (hidden (digest (depositBondTx.encode t))))
  | .withdrawUnbondedStakeTransaction t witness =>
    .enclaveTx (.withdrawUnbondedStakeTx (UInt16.ofNat t.outputs.length) witness
      (hidden (digest (withdrawUnbondedTx.encode t))))

def obfuscation : ObfuscationCrate types where
  websocketRpcClientNew address := .ok address
  defaultFromTxQuery _ := .ok fun transaction => .ok (encrypt transaction)
  mockAbciEncrypt _ transaction := .ok (encrypt transaction)

/-- What a raw transfer builder holds, and a witness or none for each input. -/
abbrev RawBuilder := RawContents types × List (Option types.TxInWitness)

def RawBuilder.tx (b : RawBuilder) : Tx types where
  inputs := b.1.inputs.map fun input => input.1.1
  outputs := b.1.outputs
  attributes := b.1.attributes

def RawBuilder.addWitness (b : RawBuilder) (i : ℕ) (witness : types.TxInWitness) :
    Except String RawBuilder :=
  if i < b.2.length then .ok (b.1, b.2.set i (some witness)) else .error "Invalid input index"

theorem RawBuilder.addWitness_eq_ok {b b' : RawBuilder} {i : ℕ} {witness : types.TxInWitness} :
    b.addWitness i witness = .ok b' ↔
      i < b.2.length ∧ b' = (b.1, b.2.set i (some witness)) := by
  by_cases hi : i < b.2.length <;> simp [RawBuilder.addWitness, hi, eq_comm]

def rawBuilder : Codec String (TxAttributes types ×
    List ((TxoPointer × TxOut types) × UInt16) × List (TxOut types) ×
      List (Option types.TxInWitness)) :=
  txAttributes.pair ((((txoPointer.pair txOut).pair (Codec.uint16 failure)).list failure).pair
    ((txOut.list failure).pair ((txInWitness.option failure).list failure)))

def core : ClientCore types where
  Builder := RawBuilder
  new attributes fee := (⟨attributes, fee, [], []⟩, [])
  addInput b input leaves :=
    ({ b.1 with inputs := b.1.inputs ++ [(input, leaves)] }, b.2 ++ [none])
  addOutput b output := ({ b.1 with outputs := b.1.outputs ++ [output] }, b.2)
  addWitness := RawBuilder.addWitness
  toIncomplete b := rawBuilder.encode (b.1.attributes, b.1.inputs, b.1.outputs, b.2)
  fromIncomplete bytes fee := (rawBuilder.read bytes).map fun p =>
    (⟨p.1, fee, p.2.1, p.2.2.1⟩, p.2.2.2)
  isCompleted b := b.2.all Option.isSome
  txId b := digest (tx.encode b.tx)
  estimateFee b := .ok (tx.encode b.tx).length
  verify _ := .ok ()
  toTxAux b encrypt :=
    if b.2.all Option.isSome then encrypt (.transferTransaction b.tx (b.2.filterMap id))
    else .error "Missing witness"

def crates : Crates where
  types := types
  neon := {
    throw := "JavaScript Error"
    downcast kind := "failed downcast to " ++ kind
    panic message := "internal error in Neon module: " ++ message }
  keys := keys
  transactions := transactions
  obfuscation := obfuscation
  core := core

def module : NativeModule :=
  NativeFromCrates.nativeModule crates Native.Sample.module.multiSig

/-- A key pair of the private key that starts with the byte, and its address on Mainnet. -/
def privateKey (b : UInt8) : Buffer := (fixed 32 [b]).val

def transferAddress (b : UInt8) : String := "cro1" ++ hexEncode (privateKey b)

def keyPair (b : UInt8) : KeyPairs.KeyPair module :=
  ⟨some (4 :: privateKey b ++ List.replicate 31 0 ++ [2]), some (2 :: privateKey b),
    some (privateKey b), .privateKey rfl rfl⟩

/-- The same without the private key. -/
def publicKeyPair (b : UInt8) : KeyPairs.KeyPair module :=
  ⟨(keyPair b).innerPublicKey, (keyPair b).innerCompressedPublicKey, none,
    .publicKey (show module.keyPair.verifyPublicKey (2 :: privateKey b) = .ok () from rfl) rfl⟩

/-! The laws of the formats. -/

theorem h256_inverse : h256.Inverse := Codec.bytes_inverse failure 32

theorem txoPointer_inverse : txoPointer.Inverse :=
  (h256_inverse.pair (Codec.uint16_inverse failure)).map (fun _ => rfl) fun _ => rfl

theorem txOut_inverse : txOut.Inverse :=
  (((Codec.bytes_inverse failure 32).variant failure 0).pair
    ((Codec.uint64_inverse failure).pair ((Codec.uint64_inverse failure).option failure))).map
    (fun _ => rfl) fun _ => rfl

theorem txAttributes_inverse : txAttributes.Inverse :=
  ((Codec.byte_inverse failure).pair
    ((((Codec.bytes_inverse failure 33).variant failure 0).map (fun _ => rfl) fun _ => rfl).list
      failure)).map (fun _ => rfl) fun _ => rfl

theorem opAttributes_inverse : opAttributes.Inverse :=
  (Codec.byte_inverse failure).map (fun _ => rfl) fun _ => rfl

theorem address_inverse : address.Inverse := (Codec.bytes_inverse failure 20).variant failure 0

theorem depositBondTx_inverse : depositBondTx.Inverse :=
  ((txoPointer_inverse.list failure).pair (address_inverse.pair opAttributes_inverse)).map
    (fun _ => rfl) fun _ => rfl

theorem unbondTx_inverse : unbondTx.Inverse :=
  (address_inverse.pair ((Codec.uint64_inverse failure).pair
    ((Codec.uint64_inverse failure).pair opAttributes_inverse))).map (fun _ => rfl) fun _ => rfl

theorem withdrawUnbondedTx_inverse : withdrawUnbondedTx.Inverse :=
  ((Codec.uint64_inverse failure).pair ((txOut_inverse.list failure).pair
    txAttributes_inverse)).map (fun _ => rfl) fun _ => rfl

theorem nodeJoinRequestTx_inverse : nodeJoinRequestTx.Inverse :=
  ((Codec.uint64_inverse failure).pair (address_inverse.pair
    (opAttributes_inverse.pair ((Codec.byte_inverse failure).list failure)))).map
    (fun _ => rfl) fun _ => rfl

theorem unjailTx_inverse : unjailTx.Inverse :=
  ((Codec.uint64_inverse failure).pair (address_inverse.pair opAttributes_inverse)).map
    (fun _ => rfl) fun _ => rfl

theorem txInWitness_inverse : txInWitness.Inverse :=
  ((Codec.bytes_inverse failure 64).pair (Codec.bytes_inverse failure 33)).variant failure 0

theorem stakedStateOpWitness_inverse : stakedStateOpWitness.Inverse :=
  (Codec.bytes_inverse failure 65).variant failure 0

theorem payload_inverse : payload.Inverse :=
  (h256_inverse.pair ((Codec.uint64_inverse failure).pair
    (((Codec.byte_inverse failure).list failure).pair
      ((Codec.byte_inverse failure).list failure)))).map (fun _ => rfl) fun _ => rfl

theorem transferAux_inverse : transferAux.Inverse :=
  (txoPointer_inverse.list failure).pair ((Codec.uint16_inverse failure).pair payload_inverse)

theorem withdrawAux_inverse : withdrawAux.Inverse :=
  (Codec.uint16_inverse failure).pair (stakedStateOpWitness_inverse.pair payload_inverse)

theorem txAux_lawful : txAux.Lawful := by
  intro aux rest
  match aux with
  | .enclaveTx (.transferTx inputs noOfOutputs p) =>
    change (transferAux.decode (transferAux.encode (inputs, noOfOutputs, p) ++ rest)).map _ = _
    rw [transferAux_inverse.lawful]
    rfl
  | .enclaveTx (.depositStakeTx t p) =>
    change ((depositBondTx.pair payload).decode ((depositBondTx.pair payload).encode (t, p) ++
      rest)).map _ = _
    rw [depositBondTx_inverse.lawful.pair payload_inverse.lawful]
    rfl
  | .enclaveTx (.withdrawUnbondedStakeTx noOfOutputs witness p) =>
    change (withdrawAux.decode (withdrawAux.encode (noOfOutputs, witness, p) ++ rest)).map _ = _
    rw [withdrawAux_inverse.lawful]
    rfl
  | .publicTx (.unbondStakeTx t witness) =>
    change ((unbondTx.pair stakedStateOpWitness).decode
      ((unbondTx.pair stakedStateOpWitness).encode (t, witness) ++ rest)).map _ = _
    rw [unbondTx_inverse.lawful.pair stakedStateOpWitness_inverse.lawful]
    rfl
  | .publicTx (.unjailTx t witness) =>
    change ((unjailTx.pair stakedStateOpWitness).decode
      ((unjailTx.pair stakedStateOpWitness).encode (t, witness) ++ rest)).map _ = _
    rw [unjailTx_inverse.lawful.pair stakedStateOpWitness_inverse.lawful]
    rfl
  | .publicTx (.nodeJoinTx t witness) =>
    change ((nodeJoinRequestTx.pair stakedStateOpWitness).decode
      ((nodeJoinRequestTx.pair stakedStateOpWitness).encode (t, witness) ++ rest)).map _ = _
    rw [nodeJoinRequestTx_inverse.lawful.pair stakedStateOpWitness_inverse.lawful]
    rfl

/-- What a variant's decoder reads is canonical when its parts are. -/
theorem eq_of_map {α : Type} {c : Codec String α} (hc : c.Canonical) (f : α → TxAux types)
    {input rest : Buffer} {aux : TxAux types}
    (h : ((c.decode input).map fun p => (f p.1, p.2)) = .ok (aux, rest)) :
    ∃ p, aux = f p ∧ input = c.encode p ++ rest := by
  obtain ⟨p, hp, heq⟩ := map_eq_ok.mp h
  obtain ⟨rfl, rfl⟩ := Prod.mk.inj heq
  exact ⟨p.1, rfl, hc input p.1 p.2 hp⟩

theorem txAux_canonical : txAux.Canonical := by
  intro input aux rest h
  simp only [txAux] at h
  split at h
  · obtain ⟨p, rfl, hinput⟩ := eq_of_map transferAux_inverse.canonical
      (fun p => .enclaveTx (.transferTx p.1 p.2.1 p.2.2)) h
    rw [hinput]
    rfl
  · obtain ⟨p, rfl, hinput⟩ :=
      eq_of_map (depositBondTx_inverse.canonical.pair payload_inverse.canonical)
        (fun p => .enclaveTx (.depositStakeTx p.1 p.2)) h
    rw [hinput]
    rfl
  · obtain ⟨p, rfl, hinput⟩ := eq_of_map withdrawAux_inverse.canonical
      (fun p => .enclaveTx (.withdrawUnbondedStakeTx p.1 p.2.1 p.2.2)) h
    rw [hinput]
    rfl
  · obtain ⟨p, rfl, hinput⟩ :=
      eq_of_map (unbondTx_inverse.canonical.pair stakedStateOpWitness_inverse.canonical)
        (fun p => .publicTx (.unbondStakeTx p.1 p.2)) h
    rw [hinput]
    rfl
  · obtain ⟨p, rfl, hinput⟩ :=
      eq_of_map (unjailTx_inverse.canonical.pair stakedStateOpWitness_inverse.canonical)
        (fun p => .publicTx (.unjailTx p.1 p.2)) h
    rw [hinput]
    rfl
  · obtain ⟨p, rfl, hinput⟩ :=
      eq_of_map (nodeJoinRequestTx_inverse.canonical.pair stakedStateOpWitness_inverse.canonical)
        (fun p => .publicTx (.nodeJoinTx p.1 p.2)) h
    rw [hinput]
    rfl
  · cases h

theorem layout_laws : LayoutLaws transactions where
  txInWitness := txInWitness_inverse
  stakedStateOpWitness := stakedStateOpWitness_inverse
  depositBondTx := depositBondTx_inverse
  unbondTx := unbondTx_inverse
  withdrawUnbondedTx := withdrawUnbondedTx_inverse
  nodeJoinRequestTx := nodeJoinRequestTx_inverse
  unjailTx := unjailTx_inverse
  txAux := ⟨txAux_lawful, txAux_canonical⟩
  unbondStakeTx_encode _ _ := rfl
  unjailTx_encode _ _ := rfl
  nodeJoinTx_encode _ _ := rfl
  withdrawUnbondedStakeTransaction_encode _ _ := rfl

theorem rawBuilder_lawful : rawBuilder.Lawful :=
  txAttributes_inverse.lawful.pair
    ((((txoPointer_inverse.lawful.pair txOut_inverse.lawful).pair
      (Codec.uint16_lawful failure)).list failure).pair
        ((txOut_inverse.lawful.list failure).pair
          ((txInWitness_inverse.lawful.option failure).list failure)))

theorem toTxAux_eq_ok {raw : RawBuilder}
    {encrypt : SignedTransaction types → Except String (TxAux types)} {aux : TxAux types}
    (h : core.toTxAux raw encrypt = .ok aux) :
    encrypt (.transferTransaction raw.tx (raw.2.filterMap id)) = .ok aux := by
  by_cases hdone : raw.2.all Option.isSome = true
  · simpa [core, hdone] using h
  · simp [core, hdone] at h

theorem raw_builder_laws :
    RawBuilderLaws core transactions (fun b => b.1) (fun b => b.2) where
  new_contents _ _ := rfl
  new_witnesses _ _ := rfl
  addInput_contents _ _ _ := rfl
  addInput_witnesses _ _ _ := rfl
  addOutput_contents _ _ := rfl
  addOutput_witnesses _ _ := rfl
  addWitness_contents b i witness b' h := by
    obtain ⟨-, rfl⟩ := RawBuilder.addWitness_eq_ok.mp h
    rfl
  addWitness_witnesses b i witness b' h := by
    obtain ⟨hi, rfl⟩ := RawBuilder.addWitness_eq_ok.mp h
    exact ⟨hi, rfl⟩
  fromIncomplete_toIncomplete b := by
    simp only [core, rawBuilder_lawful.read_encode]
    rfl
  txId_contents b b' h := by
    change b.1 = b'.1 at h
    simp only [core, RawBuilder.tx, h]
  toTxAux_encrypts b encrypt aux h := ⟨b.tx, b.2.filterMap id, rfl, toTxAux_eq_ok h⟩

theorem toTxAux_outputs (raw : core.Builder)
    (encrypt : SignedTransaction types → Except String (TxAux types)) (aux : TxAux types)
    (h : core.toTxAux raw encrypt = .ok aux) :
    ∃ tx witness, tx.outputs = raw.1.outputs ∧
      encrypt (.transferTransaction tx witness) = .ok aux :=
  ⟨RawBuilder.tx raw, raw.2.filterMap id, rfl, toTxAux_eq_ok h⟩

/-! The laws of keys, addresses and amounts. -/

theorem publicKey_read (publicKey : Bytes 33) :
    publicKeyDeserializeFrom (publicKeySerialize publicKey) = .ok publicKey := by
  obtain ⟨bytes, hlength⟩ := publicKey
  cases bytes with
  | nil => cases hlength
  | cons b rest =>
    have hrest : rest.length = 32 := by simpa using hlength
    have hserialized : publicKeySerialize ⟨b :: rest, hlength⟩ =
        4 :: (rest ++ (List.replicate 31 0 ++ [b])) := by simp [publicKeySerialize]
    have hlast : (4 :: (rest ++ (List.replicate 31 0 ++ [b]))).drop 64 = [b] := by
      simp [List.drop_append, hrest]
    have hfirst : ((4 :: (rest ++ (List.replicate 31 0 ++ [b]))).drop 1).take 32 = rest := by
      simp [hrest]
    have hbytes : (4 :: (rest ++ (List.replicate 31 0 ++ [b]))).length = 65 := by simp [hrest]
    rw [hserialized, publicKeyDeserializeFrom, if_pos hbytes, hlast, hfirst]
    simp [fixed, hrest]

theorem signing_laws : SigningLaws keys where
  publicKey_read := publicKey_read
  singleKey publicKey := ⟨publicKey, publicKey, rfl, rfl⟩
  message bytes h := ⟨⟨bytes, h⟩, dif_pos h⟩

theorem ofLength_eq_ok {n : ℕ} {failure : String} {bytes : Buffer} {fixed : Bytes n}
    (h : ofLength n failure bytes = .ok fixed) : fixed.val = bytes := by
  unfold ofLength at h
  split at h
  · rw [← Except.ok.inj h]
  · cases h

theorem fixed_of_length {n : ℕ} {bytes : Buffer} (h : bytes.length = n) :
    (fixed n bytes).val = bytes := List.take_left' h

theorem fixed_append {n : ℕ} {bytes : Buffer} (h : n ≤ bytes.length) (rest : Buffer) :
    fixed n (bytes ++ rest) = fixed n bytes := by
  apply Subtype.ext
  simp only [fixed, List.append_assoc]
  rw [List.take_append_of_le_length h, List.take_append_of_le_length h]

theorem recovery_laws : RecoveryLaws crates where
  toSigningLaws := signing_laws
  recover id message privateKey h := by
    have hmessage : message.val = id.val := ofLength_eq_ok h
    have hid : id.val.length = 32 := id.property
    obtain ⟨secret, hsecret⟩ := privateKey
    change verifyTxRecoverAddress (fixed 65 (2 :: secret ++ message.val)) id =
      .ok (fixed 20 ((fixed 33 (2 :: secret)).val.drop 1))
    have hwitness : (fixed 65 (2 :: secret ++ message.val)).val = 2 :: (secret ++ id.val) := by
      rw [hmessage]
      exact fixed_of_length (by simp [hsecret, hid])
    have hkey : (fixed 33 (2 :: secret)).val = 2 :: secret := fixed_of_length (by simp [hsecret])
    have hshown : (2 :: (secret ++ id.val)).drop 33 = id.val := List.drop_left' hsecret
    rw [verifyTxRecoverAddress, hwitness, hkey, if_pos hshown]
    exact congrArg Except.ok (fixed_append (by omega) id.val)

theorem head_of_prefixed {start : List Char} {n : ℕ} {text : String} {bytes : Bytes n}
    (h : prefixed start n text = .ok bytes) : start <+: byteChars text := by
  unfold prefixed at h
  split at h
  · cases h
  · rename_i digits hdigits
    exact ⟨digits, (List.isPrefixOf?_eq_some_iff_append_eq.mp hdigits)⟩

theorem fromCro_network (text : String) (network network' : NetworkEnum)
    (address address' : Bytes 32) (h : prefixed (addressPrefix network) 32 text = .ok address)
    (h' : prefixed (addressPrefix network') 32 text = .ok address') : network = network' := by
  obtain ⟨rest, hrest⟩ := head_of_prefixed h
  obtain ⟨rest', hrest'⟩ := head_of_prefixed h'
  have hheads := congrArg List.head? (hrest.trans hrest'.symm)
  cases network <;> cases network' <;> first | rfl | exact absurd hheads (by simp [addressPrefix])

theorem coinFromStr_repr {n : ℕ} (h : n ≤ 10 ^ 19) :
    coinFromStr (Nat.repr n) = .ok (UInt64.ofNat n) := by
  have hlt : n < 2 ^ 64 := by omega
  have hvalue : (UInt64.ofNat n).toNat = n := UInt64.toNat_ofNat_of_lt' hlt
  rw [coinFromStr, parseU64_repr, if_pos hlt]
  simp only [bind, Except.bind, hvalue]
  rw [if_pos h]
  rfl

theorem marshal_laws : MarshalLaws crates UInt64.toNat where
  fromCro_network := fromCro_network
  coinFromStr n h :=
    ⟨UInt64.ofNat n, coinFromStr_repr h, UInt64.toNat_ofNat_of_lt' (show n < 2 ^ 64 by omega)⟩

theorem export_laws : ExportLaws crates where
  toSigningLaws := signing_laws
  depositBondTx := depositBondTx_inverse.lawful
  unbondTx := unbondTx_inverse.lawful
  withdrawUnbondedTx := withdrawUnbondedTx_inverse.lawful
  nodeJoinRequestTx := nodeJoinRequestTx_inverse.lawful
  unjailTx := unjailTx_inverse.lawful
  stakedStateOpWitness := stakedStateOpWitness_inverse.lawful
  fromCro_network := fromCro_network
  coinFromStr n h := ⟨UInt64.ofNat n, coinFromStr_repr h⟩
  client address := ⟨address, rfl⟩
  defaultEncrypt _ := ⟨_, rfl, fun transaction => ⟨encrypt transaction, rfl⟩⟩
  mockAbciEncrypt _ transaction := ⟨encrypt transaction, rfl⟩

end ThalerNodelib.Crates.Sample
