import ThalerNodelib.Network

/-!
The interface of the native module, `require('../../../../native')`: the
argument and result objects that cross it and, grouped as the module registers
them, its functions. The builders are written over any such module, so what is
proved of them holds for every behaviour of the native code. A buffer argument
that a builder may pass as `undefined` is an `Option`.
-/
namespace ThalerNodelib.Native

open Js Network

structure NativeKeyPair where
  privateKey : Option Buffer
  compressedPublicKey : Option Buffer
  publicKey : Option Buffer
  deriving DecidableEq, Repr

structure NativeOutput where
  address : String
  value : String
  validFrom : Option JsNumber
  deriving DecidableEq, Repr

structure InputAddressParams where
  requiredSigners : JsNumber
  totalSigners : JsNumber
  deriving DecidableEq, Repr

structure NativeInput where
  prevTxId : String
  prevIndex : JsNumber
  prevOutput : NativeOutput
  addressParams : InputAddressParams
  deriving DecidableEq, Repr

structure PrevOutputPointer where
  prevTxId : String
  prevIndex : JsNumber
  deriving DecidableEq, Repr

/-- What every function that builds a staking transaction returns. -/
structure RawTx where
  unsignedRawTx : Buffer
  txId : String
  deriving DecidableEq, Repr

inductive Features
  | allDefault
  | mockAbci
  | mockObfuscation
  deriving DecidableEq, Repr

def getRustFeaturesFromEnv : Option String → Features
  | some "test" => .mockObfuscation
  | some "integration-test" => .allDefault
  | _ => .allDefault

structure AddressModule where
  getTransferAddressFromPublicKey : Buffer → String → Except JsError String
  getStakingAddressFromPublicKey : Buffer → Except JsError String
  isTransferAddressValid : String → String → Except JsError Bool
  isStakingAddressValid : String → Except JsError Bool

structure KeyPairModule where
  verifyPrivateKey : Buffer → Except JsError Unit
  verifyPublicKey : Buffer → Except JsError Unit
  /-- The public key and the compressed public key. -/
  getPublicKeysFromPrivateKey : Buffer → Except JsError (Buffer × Buffer)
  getPublicKeysFromAnyPublicKey : Buffer → Except JsError (Buffer × Buffer)
  isValidViewKey : Buffer → Except JsError Bool

structure SignerModule where
  schnorrSignTxId : Buffer → NativeKeyPair → Except JsError Buffer

structure BuildRawDepositTransactionOptions where
  inputs : List PrevOutputPointer
  toAddress : String
  chainHexId : Buffer
  deriving DecidableEq, Repr

structure BuildRawUnbondTransactionOptions where
  stakingAddress : String
  nonce : String
  amount : String
  chainHexId : Buffer
  deriving DecidableEq, Repr

structure BuildRawWithdrawUnbondedTransactionOptions where
  nonce : String
  outputs : List NativeOutput
  viewKeys : List Buffer
  chainHexId : Buffer
  deriving DecidableEq, Repr

structure StakingTransactionModule where
  buildRawDepositTransaction : BuildRawDepositTransactionOptions → Except JsError RawTx
  depositTransactionToHex :
    Option Buffer → List (Option Buffer) → String → Features → Except JsError Buffer
  buildRawUnbondTransaction : BuildRawUnbondTransactionOptions → Except JsError RawTx
  unbondTransactionToHex : Option Buffer → NativeKeyPair → Except JsError Buffer
  buildRawWithdrawUnbondedTransaction :
    BuildRawWithdrawUnbondedTransactionOptions → Except JsError RawTx
  estimateWithdrawUnbondedTransactionFee :
    Option Buffer → NativeFeeConfig → Except JsError String
  withdrawUnbondedTransactionToWitness :
    Option Buffer → NativeKeyPair → Except JsError Buffer
  withdrawUnbondedTransactionToSignedPlainHex :
    Option Buffer → Option Buffer → Except JsError Buffer
  withdrawUnbondedTransactionToObfuscatedHex :
    Option Buffer → Option Buffer → String → Features → Except JsError Buffer

structure BuildRawNodeJoinTransactionOptions where
  stakingAddress : String
  nonce : String
  nodeMetaData : String
  chainHexId : Buffer
  deriving DecidableEq, Repr

/-- The options of the unjail transaction, built and verified from the same fields. -/
structure UnjailTransactionOptions where
  stakingAddress : String
  nonce : String
  chainHexId : Buffer
  deriving DecidableEq, Repr

structure CouncilNodeTransactionModule where
  buildRawNodeJoinTransaction : BuildRawNodeJoinTransactionOptions → Except JsError RawTx
  nodeJoinTransactionToHex : Option Buffer → NativeKeyPair → Except JsError Buffer
  buildRawUnjailTransaction : UnjailTransactionOptions → Except JsError RawTx
  unjailTransactionToHex : Option Buffer → NativeKeyPair → Except JsError Buffer
  verifyUnjailTxAux : Buffer → UnjailTransactionOptions → Except JsError Unit

structure BuildIncompleteHexOptions where
  chainHexId : Buffer
  inputs : List NativeInput
  outputs : List NativeOutput
  viewKeys : List Buffer
  feeConfig : NativeFeeConfig
  deriving DecidableEq, Repr

structure IncompleteBuilder where
  incompleteHex : Option Buffer
  feeConfig : NativeFeeConfig
  deriving DecidableEq, Repr

structure TransferTransactionModule where
  buildIncompleteHexLinearFee : BuildIncompleteHexOptions → Except JsError Buffer
  addInputWitnessLinearFee : IncompleteBuilder → JsNumber → Buffer → Except JsError Buffer
  signInputLinearFee : IncompleteBuilder → JsNumber → NativeKeyPair → Except JsError Buffer
  isCompletedLinearFee : IncompleteBuilder → Except JsError Bool
  txIdLinearFee : IncompleteBuilder → Except JsError String
  verifyLinearFee : IncompleteBuilder → Except JsError Unit
  toHexLinearFee : IncompleteBuilder → String → Features → Except JsError Buffer
  estimateFeeLinearFee : IncompleteBuilder → Except JsError String

/-- Each function that advances a session returns the new session, those that
generate a value return it first. The public key of `addNonceCommitment` is
passed on unchecked, so it may be no buffer. -/
structure MultiSigModule where
  createAddress : List Buffer → Option Buffer → JsNumber → String → Except JsError String
  newSession : String → List Buffer → Option Buffer → Option Buffer → Except JsError Buffer
  generateNonceCommitment : Buffer → Except JsError (Buffer × Buffer)
  addNonceCommitment : Buffer → Option Buffer → Buffer → Except JsError Buffer
  generateNonce : Buffer → Except JsError (Buffer × Buffer)
  addNonce : Buffer → Buffer → Buffer → Except JsError Buffer
  partialSign : Buffer → Except JsError (Buffer × Buffer)
  addPartialSignature : Buffer → Buffer → Buffer → Except JsError Buffer
  sign : Buffer → Except JsError Buffer
  verify : Buffer → String → List Buffer → Except JsError Bool

structure NativeModule where
  address : AddressModule
  keyPair : KeyPairModule
  signer : SignerModule
  stakingTransaction : StakingTransactionModule
  councilNodeTransaction : CouncilNodeTransactionModule
  transferTransaction : TransferTransactionModule
  multiSig : MultiSigModule

/-- What the library uses of Node: whether a string parses as a URL, and `NODE_ENV`. -/
structure Runtime where
  isURL : String → Bool
  nodeEnv : Option String

/-! A native module to run the builders on: it accepts every argument, a raw
transaction shows how many parts it was built from and a witness is the raw
transaction in 66 bytes. -/
namespace Sample

def rawTx (parts : List ℕ) : RawTx where
  unsignedRawTx := parts.map UInt8.ofNat
  txId := hexEncode (parts.map UInt8.ofNat)

def given (buffer : Option Buffer) : Except JsError Buffer :=
  match buffer with
  | some bytes => .ok bytes
  | none => .error (.typeError "failed downcast to Buffer")

def witness (unsignedRawTx : Buffer) : Buffer := (unsignedRawTx ++ List.replicate 66 0).take 66

def stakingTransaction : StakingTransactionModule where
  buildRawDepositTransaction options := .ok (rawTx [options.inputs.length])
  depositTransactionToHex unsignedRawTx witnesses _ _ := do
    return (← given unsignedRawTx) ++ (← witnesses.mapM given).flatten
  buildRawUnbondTransaction _ := .ok (rawTx [1])
  unbondTransactionToHex unsignedRawTx _ := given unsignedRawTx
  buildRawWithdrawUnbondedTransaction options :=
    .ok (rawTx [options.outputs.length, options.viewKeys.length])
  estimateWithdrawUnbondedTransactionFee _ _ := .ok "0"
  withdrawUnbondedTransactionToWitness unsignedRawTx _ := (given unsignedRawTx).map witness
  withdrawUnbondedTransactionToSignedPlainHex unsignedRawTx witness := do
    return (← given unsignedRawTx) ++ (← given witness)
  withdrawUnbondedTransactionToObfuscatedHex unsignedRawTx witness _ _ := do
    return (← given unsignedRawTx) ++ (← given witness)

def module : NativeModule where
  address := {
    getTransferAddressFromPublicKey _ _ := .ok "cro"
    getStakingAddressFromPublicKey _ := .ok "0x"
    isTransferAddressValid _ _ := .ok true
    isStakingAddressValid _ := .ok true }
  keyPair := {
    verifyPrivateKey _ := .ok ()
    verifyPublicKey _ := .ok ()
    getPublicKeysFromPrivateKey privateKey := .ok (4 :: privateKey, 2 :: privateKey)
    getPublicKeysFromAnyPublicKey publicKey := .ok (publicKey, publicKey)
    isValidViewKey _ := .ok true }
  signer := { schnorrSignTxId txId _ := .ok txId }
  stakingTransaction := stakingTransaction
  councilNodeTransaction := {
    buildRawNodeJoinTransaction _ := .ok (rawTx [1])
    nodeJoinTransactionToHex unsignedRawTx _ := given unsignedRawTx
    buildRawUnjailTransaction _ := .ok (rawTx [1])
    unjailTransactionToHex unsignedRawTx _ := given unsignedRawTx
    verifyUnjailTxAux _ _ := .ok () }
  transferTransaction := {
    buildIncompleteHexLinearFee options :=
      .ok [UInt8.ofNat options.inputs.length, UInt8.ofNat options.outputs.length]
    addInputWitnessLinearFee builder _ _ := given builder.incompleteHex
    signInputLinearFee builder _ _ := given builder.incompleteHex
    isCompletedLinearFee _ := .ok true
    txIdLinearFee builder := (given builder.incompleteHex).map hexEncode
    verifyLinearFee _ := .ok ()
    toHexLinearFee builder _ _ := given builder.incompleteHex
    estimateFeeLinearFee _ := .ok "0" }
  multiSig := {
    createAddress _ _ _ _ := .ok "cro"
    newSession message _ _ _ := .ok (message.toUTF8.toList)
    generateNonceCommitment session := .ok ([1], session)
    addNonceCommitment session _ _ := .ok session
    generateNonce session := .ok ([2], session)
    addNonce session _ _ := .ok session
    partialSign session := .ok ([3], session)
    addPartialSignature session _ _ := .ok session
    sign session := .ok session
    verify _ _ _ := .ok true }

def runtime : Runtime where
  isURL _ := true
  nodeEnv := none

end Sample
end ThalerNodelib.Native
