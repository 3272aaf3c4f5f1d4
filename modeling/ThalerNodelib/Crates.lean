import ThalerNodelib.Codec
import ThalerNodelib.Native

/-!
What the native module takes from the chain and client crates and from neon.
The crates are a parameter: their types are abstract where the native module
only passes values on, and records where it makes them or reads their fields.
`Lawful` collects the documented behaviour that results rely on.
-/
namespace ThalerNodelib.Crates

open Js Native Network

/-- `H256`, `TxId`. -/
abbrev H256 := { bytes : Buffer // bytes.length = 32 }

structure ChainTypes where
  ExtendedAddr : Type
  StakedStateAddress : Type
  Coin : Type
  Milli : Type
  Fee : Type
  PublicKey : Type
  PrivateKey : Type
  MultiSigAddress : Type
  Proof : Type
  Message : Type
  SchnorrSignature : Type
  RecoverableSignature : Type
  TxInWitness : Type
  StakedStateOpWitness : Type
  CouncilNode : Type
  WebsocketRpcClient : Type

section Records
variable (types : ChainTypes)

structure LinearFee where
  constant : types.Milli
  coefficient : types.Milli

structure TxoPointer where
  id : H256
  index : UInt16

structure TxOut where
  address : types.ExtendedAddr
  value : types.Coin
  validFrom : Option UInt64

/-- `TxAccess`, of which the module uses one variant. -/
inductive TxAccess
  | allData

structure TxAccessPolicy where
  viewKey : types.PublicKey
  access : TxAccess

/-- `TxAttributes::new_with_access`. -/
structure TxAttributes where
  chainHexId : UInt8
  allowedView : List (TxAccessPolicy types)

/-- `StakedStateOpAttributes::new`. -/
structure StakedStateOpAttributes where
  chainHexId : UInt8

structure DepositBondTx where
  inputs : List TxoPointer
  toStakedAccount : types.StakedStateAddress
  attributes : StakedStateOpAttributes

structure UnbondTx where
  fromStakedAccount : types.StakedStateAddress
  nonce : UInt64
  value : types.Coin
  attributes : StakedStateOpAttributes

structure WithdrawUnbondedTx where
  nonce : UInt64
  outputs : List (TxOut types)
  attributes : TxAttributes types

structure NodeJoinRequestTx where
  nonce : UInt64
  address : types.StakedStateAddress
  attributes : StakedStateOpAttributes
  nodeMeta : types.CouncilNode

structure UnjailTx where
  nonce : UInt64
  address : types.StakedStateAddress
  attributes : StakedStateOpAttributes

/-- The transfer transaction that a completed builder holds. -/
structure Tx where
  inputs : List TxoPointer
  outputs : List (TxOut types)
  attributes : TxAttributes types

inductive SignedTransaction
  | transferTransaction (tx : Tx types) (witness : List types.TxInWitness)
  | depositStakeTransaction (tx : DepositBondTx types) (witness : List types.TxInWitness)
  | withdrawUnbondedStakeTransaction (tx : WithdrawUnbondedTx types)
      (witness : types.StakedStateOpWitness)

structure TxObfuscated where
  txid : H256
  keyFrom : UInt64
  initVector : Buffer
  txpayload : Buffer

inductive TxEnclaveAux
  | transferTx (inputs : List TxoPointer) (noOfOutputs : UInt16) (payload : TxObfuscated)
  | depositStakeTx (tx : DepositBondTx types) (payload : TxObfuscated)
  | withdrawUnbondedStakeTx (noOfOutputs : UInt16) (witness : types.StakedStateOpWitness)
      (payload : TxObfuscated)

inductive TxPublicAux
  | unbondStakeTx (tx : UnbondTx types) (witness : types.StakedStateOpWitness)
  | unjailTx (tx : UnjailTx types) (witness : types.StakedStateOpWitness)
  | nodeJoinTx (tx : NodeJoinRequestTx types) (witness : types.StakedStateOpWitness)

inductive TxAux
  | enclaveTx (tx : TxEnclaveAux types)
  | publicTx (tx : TxPublicAux types)

end Records

/-- The texts of neon: of its `Throw`, of a failed downcast to a type of the
given name, and of a panic caught at the border. -/
structure NeonTexts where
  throw : String
  downcast : String → String
  panic : String → String

/-- A transaction type that can be written, read and identified. -/
structure TransactionFormat (α : Type) where
  codec : Codec String α
  id : α → H256

/-- Addresses, keys and signatures. An error is the text it displays. -/
structure KeyCrate (types : ChainTypes) where
  fromCro : String → NetworkEnum → Except String types.ExtendedAddr
  toCro : types.ExtendedAddr → NetworkEnum → Except String String
  stakedStateAddressFromStr : String → Except String types.StakedStateAddress
  stakedStateAddressToString : types.StakedStateAddress → String
  stakedStateAddressEq : DecidableEq types.StakedStateAddress
  /-- `StakedStateAddress::BasicRedeem(RedeemAddress::from(&public_key))`. -/
  basicRedeem : types.PublicKey → types.StakedStateAddress
  publicKeyFromStr : String → Except String types.PublicKey
  publicKeyDeserializeFrom : Buffer → Except String types.PublicKey
  publicKeySerialize : types.PublicKey → Buffer
  publicKeySerializeCompressed : types.PublicKey → Buffer
  publicKeyFrom : types.PrivateKey → types.PublicKey
  privateKeyDeserializeFrom : Buffer → Except String types.PrivateKey
  multiSigAddressNew :
    List types.PublicKey → types.PublicKey → ℕ → Except String types.MultiSigAddress
  generateProof : types.MultiSigAddress → List types.PublicKey → Except String (Option types.Proof)
  extendedAddrFrom : types.MultiSigAddress → types.ExtendedAddr
  messageFromSlice : Buffer → Except String types.Message
  signRecoverable : types.Message → types.PrivateKey → types.RecoverableSignature
  schnorrSign : types.Message → types.PrivateKey → types.SchnorrSignature
  /-- How an error of the kind displays, with its message and the error it wraps. -/
  clientError : String → String → Option String → String

/-- Amounts, witnesses and the formats of the transactions. -/
structure TransactionCrate (types : ChainTypes) where
  coinFromStr : String → Except String types.Coin
  milliFromStr : String → Except String types.Milli
  councilNodeFromJson : String → Except String types.CouncilNode
  treeSig : types.SchnorrSignature → types.Proof → types.TxInWitness
  stakedStateOpWitnessNew : types.RecoverableSignature → types.StakedStateOpWitness
  txInWitness : Codec String types.TxInWitness
  stakedStateOpWitness : Codec String types.StakedStateOpWitness
  depositBondTx : TransactionFormat (DepositBondTx types)
  unbondTx : TransactionFormat (UnbondTx types)
  withdrawUnbondedTx : TransactionFormat (WithdrawUnbondedTx types)
  nodeJoinRequestTx : TransactionFormat (NodeJoinRequestTx types)
  unjailTx : TransactionFormat (UnjailTx types)
  tx : TransactionFormat (Tx types)
  signedTransactionEncode : SignedTransaction types → Buffer
  txAux : Codec String (TxAux types)
  /-- `DummySigner().mock_txaux_for_withdraw`. -/
  mockTxauxForWithdraw : WithdrawUnbondedTx types → TxAux types
  calculateForTxaux : LinearFee types → TxAux types → Except String types.Fee
  /-- `serde_json::to_string` of a fee. -/
  feeToJson : types.Fee → Except String String
  verifyTxRecoverAddress :
    types.StakedStateOpWitness → H256 → Except String types.StakedStateAddress

/-- The two obfuscations that ask a node. -/
structure ObfuscationCrate (types : ChainTypes) where
  websocketRpcClientNew : String → Except String types.WebsocketRpcClient
  /-- `DefaultTransactionObfuscation::from_tx_query`, as the function that encrypts. -/
  defaultFromTxQuery : types.WebsocketRpcClient →
    Except String (SignedTransaction types → Except String (TxAux types))
  mockAbciEncrypt :
    types.WebsocketRpcClient → SignedTransaction types → Except String (TxAux types)

/-- `RawTransferTransactionBuilder` with the linear fee. -/
structure ClientCore (types : ChainTypes) where
  Builder : Type
  new : TxAttributes types → LinearFee types → Builder
  addInput : Builder → TxoPointer × TxOut types → UInt16 → Builder
  addOutput : Builder → TxOut types → Builder
  addWitness : Builder → ℕ → types.TxInWitness → Except String Builder
  toIncomplete : Builder → Buffer
  fromIncomplete : Buffer → LinearFee types → Except String Builder
  isCompleted : Builder → Bool
  txId : Builder → H256
  estimateFee : Builder → Except String types.Fee
  verify : Builder → Except String Unit
  /-- `to_tx_aux`, given the function that encrypts. -/
  toTxAux : Builder → (SignedTransaction types → Except String (TxAux types)) →
    Except String (TxAux types)

end Crates

structure Crates where
  types : Crates.ChainTypes
  neon : Crates.NeonTexts
  keys : Crates.KeyCrate types
  transactions : Crates.TransactionCrate types
  obfuscation : Crates.ObfuscationCrate types
  core : Crates.ClientCore types

namespace Crates

open Js Native Network

instance (crates : Crates) : DecidableEq crates.types.StakedStateAddress :=
  crates.keys.stakedStateAddressEq

/-- What a raw transfer builder holds apart from the witnesses. -/
structure RawContents (types : ChainTypes) where
  attributes : TxAttributes types
  fee : LinearFee types
  inputs : List ((TxoPointer × TxOut types) × UInt16)
  outputs : List (TxOut types)

/-- What is documented of the raw transfer builder, in terms of what it holds. -/
structure RawBuilderLaws {types : ChainTypes} (core : ClientCore types)
    (formats : TransactionCrate types)
    (contents : core.Builder → RawContents types)
    (witnesses : core.Builder → List (Option types.TxInWitness)) : Prop where
  new_contents : ∀ attributes fee, contents (core.new attributes fee) = ⟨attributes, fee, [], []⟩
  new_witnesses : ∀ attributes fee, witnesses (core.new attributes fee) = []
  addInput_contents : ∀ b input leaves, contents (core.addInput b input leaves) =
    { contents b with inputs := (contents b).inputs ++ [(input, leaves)] }
  addInput_witnesses : ∀ b input leaves,
    witnesses (core.addInput b input leaves) = witnesses b ++ [none]
  addOutput_contents : ∀ b output, contents (core.addOutput b output) =
    { contents b with outputs := (contents b).outputs ++ [output] }
  addOutput_witnesses : ∀ b output, witnesses (core.addOutput b output) = witnesses b
  /-- `add_witness` fails or changes only the witness of the indexed input. -/
  addWitness_contents : ∀ b i witness b', core.addWitness b i witness = .ok b' →
    contents b' = contents b
  addWitness_witnesses : ∀ b i witness b', core.addWitness b i witness = .ok b' →
    i < (witnesses b).length ∧ witnesses b' = (witnesses b).set i (some witness)
  /-- `from_incomplete` undoes `to_incomplete`. -/
  fromIncomplete_toIncomplete : ∀ b,
    core.fromIncomplete (core.toIncomplete b) (contents b).fee = .ok b
  /-- `tx_id` does not depend on the witnesses. -/
  txId_contents : ∀ b b', contents b = contents b' → core.txId b = core.txId b'
  /-- `to_tx_aux` encrypts a transfer transaction with the id of the builder. -/
  toTxAux_encrypts : ∀ b encrypt aux, core.toTxAux b encrypt = .ok aux →
    ∃ tx witness, formats.tx.id tx = core.txId b ∧
      encrypt (.transferTransaction tx witness) = .ok aux

namespace RawBuilderLaws

variable {types : ChainTypes} {core : ClientCore types} {formats : TransactionCrate types}
  {contents : core.Builder → RawContents types}
  {witnesses : core.Builder → List (Option types.TxInWitness)}

theorem addInputs_contents (laws : RawBuilderLaws core formats contents witnesses)
    (inputs : List ((TxoPointer × TxOut types) × UInt16)) (b : core.Builder) :
    contents (inputs.foldl (fun b input => core.addInput b input.1 input.2) b) =
      { contents b with inputs := (contents b).inputs ++ inputs } := by
  induction inputs generalizing b with
  | nil => simp
  | cons input rest ih =>
    rw [List.foldl_cons, ih, laws.addInput_contents]
    simp

theorem addInputs_witnesses (laws : RawBuilderLaws core formats contents witnesses)
    (inputs : List ((TxoPointer × TxOut types) × UInt16)) (b : core.Builder) :
    witnesses (inputs.foldl (fun b input => core.addInput b input.1 input.2) b) =
      witnesses b ++ List.replicate inputs.length none := by
  induction inputs generalizing b with
  | nil => simp
  | cons input rest ih =>
    rw [List.foldl_cons, ih, laws.addInput_witnesses, List.length_cons, List.replicate_succ]
    simp

theorem addOutputs_contents (laws : RawBuilderLaws core formats contents witnesses)
    (outputs : List (TxOut types)) (b : core.Builder) :
    contents (outputs.foldl core.addOutput b) =
      { contents b with outputs := (contents b).outputs ++ outputs } := by
  induction outputs generalizing b with
  | nil => simp
  | cons output rest ih =>
    rw [List.foldl_cons, ih, laws.addOutput_contents]
    simp

theorem addOutputs_witnesses (laws : RawBuilderLaws core formats contents witnesses)
    (outputs : List (TxOut types)) (b : core.Builder) :
    witnesses (outputs.foldl core.addOutput b) = witnesses b := by
  induction outputs generalizing b with
  | nil => rfl
  | cons output rest ih => rw [List.foldl_cons, ih, laws.addOutput_witnesses]

end RawBuilderLaws

/-- What is documented of keys and of the signatures made with them. -/
structure SigningLaws {types : ChainTypes} (keys : KeyCrate types) : Prop where
  publicKey_read : ∀ publicKey,
    keys.publicKeyDeserializeFrom (keys.publicKeySerialize publicKey) = .ok publicKey
  /-- One key has an address that it unlocks alone, and a proof of it. -/
  singleKey : ∀ publicKey, ∃ address proof,
    keys.multiSigAddressNew [publicKey] publicKey 1 = .ok address ∧
      keys.generateProof address [publicKey] = .ok (some proof)
  message : ∀ bytes : Buffer, bytes.length = 32 → ∃ message, keys.messageFromSlice bytes = .ok message

/-- What is documented of the crates that an export of a staking transaction
meets. The obfuscation service is taken never to fail. -/
structure ExportLaws (crates : Crates) : Prop extends SigningLaws crates.keys where
  depositBondTx : crates.transactions.depositBondTx.codec.Lawful
  unbondTx : crates.transactions.unbondTx.codec.Lawful
  withdrawUnbondedTx : crates.transactions.withdrawUnbondedTx.codec.Lawful
  nodeJoinRequestTx : crates.transactions.nodeJoinRequestTx.codec.Lawful
  unjailTx : crates.transactions.unjailTx.codec.Lawful
  stakedStateOpWitness : crates.transactions.stakedStateOpWitness.Lawful
  /-- The networks accept disjoint sets of addresses. -/
  fromCro_network : ∀ text network network' address address',
    crates.keys.fromCro text network = .ok address →
    crates.keys.fromCro text network' = .ok address' → network = network'
  coinFromStr : ∀ n, n ≤ 10000000000000000000 →
    ∃ coin, crates.transactions.coinFromStr (Nat.repr n) = .ok coin
  client : ∀ address, ∃ client, crates.obfuscation.websocketRpcClientNew address = .ok client
  defaultEncrypt : ∀ client, ∃ encrypt, crates.obfuscation.defaultFromTxQuery client = .ok encrypt ∧
    ∀ transaction, ∃ txAux, encrypt transaction = .ok txAux
  mockAbciEncrypt : ∀ client transaction, ∃ txAux,
    crates.obfuscation.mockAbciEncrypt client transaction = .ok txAux

/-- What is documented of the texts of addresses and amounts: the networks accept
disjoint sets of addresses, and a decimal numeral up to the supply is read as
the amount it denotes. -/
structure MarshalLaws (crates : Crates) (coinValue : crates.types.Coin → ℕ) : Prop where
  fromCro_network : ∀ text network network' address address',
    crates.keys.fromCro text network = .ok address →
    crates.keys.fromCro text network' = .ok address' → network = network'
  coinFromStr : ∀ n, n ≤ 10000000000000000000 →
    ∃ coin, crates.transactions.coinFromStr (Nat.repr n) = .ok coin ∧ coinValue coin = n

/-- From the signature of an id the address of the key that made it is recovered. -/
structure RecoveryLaws (crates : Crates) : Prop extends SigningLaws crates.keys where
  recover : ∀ (id : H256) message privateKey, crates.keys.messageFromSlice id.val = .ok message →
    crates.transactions.verifyTxRecoverAddress (crates.transactions.stakedStateOpWitnessNew
      (crates.keys.signRecoverable message privateKey)) id =
        .ok (crates.keys.basicRedeem (crates.keys.publicKeyFrom privateKey))

/-- Every transaction and witness is read as it was written, and only so. -/
structure FormatLaws {types : ChainTypes} (transactions : TransactionCrate types) : Prop where
  txInWitness : transactions.txInWitness.Inverse
  stakedStateOpWitness : transactions.stakedStateOpWitness.Inverse
  depositBondTx : transactions.depositBondTx.codec.Inverse
  unbondTx : transactions.unbondTx.codec.Inverse
  withdrawUnbondedTx : transactions.withdrawUnbondedTx.codec.Inverse
  nodeJoinRequestTx : transactions.nodeJoinRequestTx.codec.Inverse
  unjailTx : transactions.unjailTx.codec.Inverse
  txAux : transactions.txAux.Inverse

/-- A value of an enum is a byte for the variant, then its fields. -/
structure LayoutLaws {types : ChainTypes} (transactions : TransactionCrate types) : Prop
    extends FormatLaws transactions where
  unbondStakeTx_encode : ∀ tx witness,
    transactions.txAux.encode (.publicTx (.unbondStakeTx tx witness)) =
      1 :: 0 :: (transactions.unbondTx.codec.encode tx ++
        transactions.stakedStateOpWitness.encode witness)
  unjailTx_encode : ∀ tx witness,
    transactions.txAux.encode (.publicTx (.unjailTx tx witness)) =
      1 :: 1 :: (transactions.unjailTx.codec.encode tx ++
        transactions.stakedStateOpWitness.encode witness)
  nodeJoinTx_encode : ∀ tx witness,
    transactions.txAux.encode (.publicTx (.nodeJoinTx tx witness)) =
      1 :: 2 :: (transactions.nodeJoinRequestTx.codec.encode tx ++
        transactions.stakedStateOpWitness.encode witness)
  withdrawUnbondedStakeTransaction_encode : ∀ tx witness,
    transactions.signedTransactionEncode (.withdrawUnbondedStakeTransaction tx witness) =
      2 :: (transactions.withdrawUnbondedTx.codec.encode tx ++
        transactions.stakedStateOpWitness.encode witness)

end Crates
end ThalerNodelib
