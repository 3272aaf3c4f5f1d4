import ThalerNodelib.NativeTransfer

/-!
The native module as it is registered, over the crates. The functions of
multi-signature sessions are a further parameter.
-/
namespace ThalerNodelib.NativeFromCrates

open Js Native Network Crates FunctionTypes NativeStaking NativeTransfer

variable (crates : Crates)

def getTransferAddressFromPublicKey (publicKey : Buffer) (network : String) :
    Except JsError String := do
  let publicKey ← publicKeyArgument crates publicKey
  let network ← networkFromStr network
  let multiSigAddress ← chainNeon (crates.keys.multiSigAddressNew [publicKey] publicKey 1)
    "Unable to create MultiSig address"
  chainNeon (crates.keys.toCro (crates.keys.extendedAddrFrom multiSigAddress) network)
    "Unable to convert to CRO address"

def getStakingAddressFromPublicKey (publicKey : Buffer) : Except JsError String := do
  let publicKey ← publicKeyArgument crates publicKey
  return crates.keys.stakedStateAddressToString (crates.keys.basicRedeem publicKey)

def isTransferAddressValid (address network : String) : Except JsError Bool := do
  let network ← networkFromStr network
  return (crates.keys.fromCro address network).isOk

def isStakingAddressValid (address : String) : Except JsError Bool :=
  .ok (crates.keys.stakedStateAddressFromStr address).isOk

def verifyPrivateKey (privateKey : Buffer) : Except JsError Unit := do
  let _ ← privateKeyArgument crates privateKey

def verifyPublicKey (publicKey : Buffer) : Except JsError Unit := do
  let _ ← publicKeyArgument crates publicKey

/-- The two serialisations of a public key. -/
def publicKeys (publicKey : crates.types.PublicKey) : Buffer × Buffer :=
  (crates.keys.publicKeySerialize publicKey, crates.keys.publicKeySerializeCompressed publicKey)

def getPublicKeysFromPrivateKey (privateKey : Buffer) : Except JsError (Buffer × Buffer) := do
  let privateKey ← privateKeyArgument crates privateKey
  return publicKeys crates (crates.keys.publicKeyFrom privateKey)

def getPublicKeysFromAnyPublicKey (publicKey : Buffer) : Except JsError (Buffer × Buffer) := do
  return publicKeys crates (← publicKeyArgument crates publicKey)

def isValidViewKey (viewKey : Buffer) : Except JsError Bool :=
  .ok (crates.keys.publicKeyFromStr (hexEncodeUpper viewKey)).isOk

def nativeModule (multiSig : MultiSigModule) : NativeModule where
  address := {
    getTransferAddressFromPublicKey := getTransferAddressFromPublicKey crates
    getStakingAddressFromPublicKey := getStakingAddressFromPublicKey crates
    isTransferAddressValid := isTransferAddressValid crates
    isStakingAddressValid := isStakingAddressValid crates }
  keyPair := {
    verifyPrivateKey := verifyPrivateKey crates
    verifyPublicKey := verifyPublicKey crates
    getPublicKeysFromPrivateKey := getPublicKeysFromPrivateKey crates
    getPublicKeysFromAnyPublicKey := getPublicKeysFromAnyPublicKey crates
    isValidViewKey := isValidViewKey crates }
  signer := { schnorrSignTxId := schnorrSignTxId crates }
  stakingTransaction := {
    buildRawDepositTransaction := buildRawDepositTransaction crates
    depositTransactionToHex := depositTransactionToHex crates
    buildRawUnbondTransaction := buildRawUnbondTransaction crates
    unbondTransactionToHex := unbondTransactionToHex crates
    buildRawWithdrawUnbondedTransaction := buildRawWithdrawUnbondedTransaction crates
    estimateWithdrawUnbondedTransactionFee := estimateWithdrawUnbondedTransactionFee crates
    withdrawUnbondedTransactionToWitness := withdrawUnbondedTransactionToWitness crates
    withdrawUnbondedTransactionToSignedPlainHex :=
      withdrawUnbondedTransactionToSignedPlainHex crates
    withdrawUnbondedTransactionToObfuscatedHex :=
      withdrawUnbondedTransactionToObfuscatedHex crates }
  councilNodeTransaction := {
    buildRawNodeJoinTransaction := buildRawNodeJoinTransaction crates
    nodeJoinTransactionToHex := nodeJoinTransactionToHex crates
    buildRawUnjailTransaction := buildRawUnjailTransaction crates
    unjailTransactionToHex := unjailTransactionToHex crates
    verifyUnjailTxAux := verifyUnjailTxAux crates }
  transferTransaction := {
    buildIncompleteHexLinearFee := buildIncompleteHexLinearFee crates
    addInputWitnessLinearFee := addInputWitnessLinearFee crates
    signInputLinearFee := signInputLinearFee crates
    isCompletedLinearFee := isCompletedLinearFee crates
    txIdLinearFee := txIdLinearFee crates
    verifyLinearFee := verifyLinearFee crates
    toHexLinearFee := toHexLinearFee crates
    estimateFeeLinearFee := estimateFeeLinearFee crates }
  multiSig := multiSig

variable {crates}

/-- On a named network the check of an address is the parser of the crate. -/
theorem isTransferAddressValid_name (address : String) (network : NetworkEnum) :
    isTransferAddressValid crates address network.name =
      .ok (crates.keys.fromCro address network).isOk := by
  simp [isTransferAddressValid, bind, Except.bind, pure, Except.pure]

theorem isOk_iff {ε α : Type} (x : Except ε α) : x.isOk = true ↔ ∃ v, x = .ok v := by
  cases x <;> simp [Except.isOk, Except.toBool]

end ThalerNodelib.NativeFromCrates
