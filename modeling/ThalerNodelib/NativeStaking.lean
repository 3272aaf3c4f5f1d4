import ThalerNodelib.FunctionTypes

/-!
The functions of the native module for staking and council node transactions:
each builds a raw transaction from its options, or reads one back and signs or
exports it.
-/
namespace ThalerNodelib.NativeStaking

open Js Native Network Crates FunctionTypes

variable (crates : Crates)

/-- The object that a function which builds a transaction returns. -/
def rawTxObject {α : Type} (format : TransactionFormat α) (tx : α) : RawTx where
  unsignedRawTx := format.codec.encode tx
  txId := hexEncode (format.id tx).val

/-- A raw transaction given as an argument. -/
def txArgument {α : Type} (format : TransactionFormat α) (bytes : Option Buffer) :
    Except JsError α := do
  let bytes ← bufferArgument crates bytes
  decode format.codec bytes "Unable to decode raw transaction bytes"

/-- What a lawful format wrote is read back. -/
theorem txArgument_rawTxObject {α : Type} {format : TransactionFormat α}
    (hformat : format.codec.Lawful) (tx : α) :
    txArgument crates format (some (rawTxObject format tx).unsignedRawTx) = .ok tx := by
  simp [txArgument, rawTxObject, decode, hformat.read_encode, bind, Except.bind]

def accessPolicies (viewKeys : List crates.types.PublicKey) :
    List (TxAccessPolicy crates.types) :=
  viewKeys.map fun viewKey => { viewKey := viewKey, access := .allData }

/-! Obfuscation. -/

/-- The cipher of the mock feature, which is not written for transfers. -/
def mockTransactionCipher (transaction : SignedTransaction crates.types) :
    Except JsError (TxAux crates.types) :=
  let txpayload := crates.transactions.signedTransactionEncode transaction
  match transaction with
  | .depositStakeTransaction tx _ => .ok (.enclaveTx (.depositStakeTx tx {
      txid := crates.transactions.depositBondTx.id tx
      keyFrom := 0
      initVector := List.replicate 12 0
      txpayload := txpayload }))
  | .withdrawUnbondedStakeTransaction tx witness =>
    .ok (.enclaveTx (.withdrawUnbondedStakeTx (UInt16.ofNat tx.outputs.length) witness {
      txid := crates.transactions.withdrawUnbondedTx.id tx
      keyFrom := 0
      initVector := List.replicate 12 0
      txpayload := txpayload }))
  | .transferTransaction _ _ =>
    .error (.error (crates.neon.panic "internal error: entered unreachable code"))

def websocketClient (tendermintAddress : String) :
    Except JsError crates.types.WebsocketRpcClient := do
  if !tendermintAddress.startsWith "ws" then
    throw (.error "Unsupported Tendermint client protocol")
  chainNeon (crates.obfuscation.websocketRpcClientNew tendermintAddress)
    "Unable to create Tendermint client from address"

/-- `signed_transaction_to_tx_aux`. -/
def signedTransactionToTxAux (transaction : SignedTransaction crates.types)
    (tendermintAddress : String) (features : Features) : Except JsError (TxAux crates.types) :=
  match features with
  | .allDefault => do
    let client ← websocketClient crates tendermintAddress
    let encrypt ← chainNeon (crates.obfuscation.defaultFromTxQuery client)
      "Unable to create transaction obfuscation from tx query address"
    chainNeon (encrypt transaction) "Unable to encrypt transaction"
  | .mockAbci => do
    let client ← websocketClient crates tendermintAddress
    chainNeon (crates.obfuscation.mockAbciEncrypt client transaction)
      "Unable to encrypt transaction"
  | .mockObfuscation => mockTransactionCipher crates transaction

def txAuxToHex (txAux : TxAux crates.types) : Buffer := crates.transactions.txAux.encode txAux

/-! Deposit. -/

def buildRawDepositTransaction (options : BuildRawDepositTransactionOptions) :
    Except JsError RawTx := do
  let inputs ← parsePrevOutputPointerVec options.inputs
  let toAddress ← stakingAddress crates options.toAddress "Unable to deserialize staking address"
  let chainHexId ← chainHexIdFromVec options.chainHexId
  return rawTxObject crates.transactions.depositBondTx
    { inputs := inputs, toStakedAccount := toAddress, attributes := { chainHexId := chainHexId } }

def txInWitnessVecArgument (witnesses : List (Option Buffer)) :
    Except JsError (List crates.types.TxInWitness) :=
  witnesses.mapM fun witness => do
    let witness ← downcastBuffer crates witness "Unable to downcast witness"
    decode crates.transactions.txInWitness witness "Unable to decode witness"

def depositTransactionToHex (depositBondTx : Option Buffer) (witnesses : List (Option Buffer))
    (tendermintAddress : String) (features : Features) : Except JsError Buffer := do
  let tx ← txArgument crates crates.transactions.depositBondTx depositBondTx
  let witness ← txInWitnessVecArgument crates witnesses
  let txAux ← signedTransactionToTxAux crates (.depositStakeTransaction tx witness)
    tendermintAddress features
  return txAuxToHex crates txAux

/-! Withdraw unbonded. -/

def buildRawWithdrawUnbondedTransaction (options : BuildRawWithdrawUnbondedTransactionOptions) :
    Except JsError RawTx := do
  let nonce ← parseAccountNonce options.nonce
  let chainHexId ← chainHexIdFromVec options.chainHexId
  let network := networkFromChainHexId chainHexId
  let outputs ← options.outputs.mapM fun output => parseOutput crates output network
  let viewKeys ← options.viewKeys.mapM (parseViewKey crates)
  let attributes : TxAttributes crates.types :=
    { chainHexId := chainHexId, allowedView := accessPolicies crates viewKeys }
  return rawTxObject crates.transactions.withdrawUnbondedTx
    { nonce := nonce, outputs := outputs, attributes := attributes }

/-- `trim_matches('"')`. -/
def trimQuotes (text : String) : String :=
  String.ofList ((text.toList.dropWhile (· = '"')).reverse.dropWhile (· = '"')).reverse

def feeText (fee : Except String crates.types.Fee) : Except JsError String := do
  let fee ← chainNeon fee "Unable to estimate transaction fee"
  let text ← chainNeon (crates.transactions.feeToJson fee)
    "Unable to serialize estimated fee to string"
  return trimQuotes text

def estimateWithdrawUnbondedTransactionFee (withdrawUnbondedTx : Option Buffer)
    (feeConfig : NativeFeeConfig) : Except JsError String := do
  let tx ← txArgument crates crates.transactions.withdrawUnbondedTx withdrawUnbondedTx
  let feeConfig ← parseLinearFeeConfig crates feeConfig
  feeText crates (crates.transactions.calculateForTxaux feeConfig
    (crates.transactions.mockTxauxForWithdraw tx))

/-- The signature of an id under the key pair. -/
def signId (id : H256) (keyPair : NativeKeyPair) :
    Except JsError crates.types.StakedStateOpWitness := do
  let (privateKey, publicKey) ← parseKeyPair crates keyPair
  let signer ← chainNeon (KeyPairSigner.new crates privateKey publicKey)
    "Unable to create KeyPair signer"
  let signature ← chainNeon (signer.sign crates id.val) "Error when signing transaction"
  return crates.transactions.stakedStateOpWitnessNew signature

def withdrawUnbondedTransactionToWitness (withdrawUnbondedTx : Option Buffer)
    (keyPair : NativeKeyPair) : Except JsError Buffer := do
  let tx ← txArgument crates crates.transactions.withdrawUnbondedTx withdrawUnbondedTx
  let witness ← signId crates (crates.transactions.withdrawUnbondedTx.id tx) keyPair
  return crates.transactions.stakedStateOpWitness.encode witness

def withdrawUnbondedTransactionToSignedPlainHex (withdrawUnbondedTx : Option Buffer)
    (witness : Option Buffer) : Except JsError Buffer := do
  let tx ← txArgument crates crates.transactions.withdrawUnbondedTx withdrawUnbondedTx
  let witness ← bufferArgument crates witness
  let witness ← parseStakedStateOpWitness crates witness
  return crates.transactions.signedTransactionEncode (.withdrawUnbondedStakeTransaction tx witness)

def withdrawUnbondedTransactionToObfuscatedHex (withdrawUnbondedTx : Option Buffer)
    (witness : Option Buffer) (tendermintAddress : String) (features : Features) :
    Except JsError Buffer := do
  let tx ← txArgument crates crates.transactions.withdrawUnbondedTx withdrawUnbondedTx
  let witness ← bufferArgument crates witness
  let witness ← parseStakedStateOpWitness crates witness
  let txAux ← chainThrow crates
    (signedTransactionToTxAux crates (.withdrawUnbondedStakeTransaction tx witness)
      tendermintAddress features)
    "Unable to obfuscate transaction"
  return txAuxToHex crates txAux

/-! Unbond, node join and unjail. -/

/-- The export that the three share: the transaction is signed with the key pair. -/
def publicTransactionToHex {α : Type} (format : TransactionFormat α)
    (publicAux : α → crates.types.StakedStateOpWitness → TxPublicAux crates.types)
    (bytes : Option Buffer) (keyPair : NativeKeyPair) : Except JsError Buffer := do
  let tx ← txArgument crates format bytes
  let signature ← signId crates (format.id tx) keyPair
  return txAuxToHex crates (.publicTx (publicAux tx signature))

def buildRawUnbondTransaction (options : BuildRawUnbondTransactionOptions) :
    Except JsError RawTx := do
  let address ← stakingAddress crates options.stakingAddress
    "Unable to deserialize stakingAddress"
  let nonce ← parseAccountNonce options.nonce
  let amount ← chainNeon (crates.transactions.coinFromStr options.amount)
    "Unable to deserialize amount"
  let chainHexId ← chainHexIdFromVec options.chainHexId
  return rawTxObject crates.transactions.unbondTx {
    fromStakedAccount := address, nonce := nonce, value := amount
    attributes := { chainHexId := chainHexId } }

def unbondTransactionToHex : Option Buffer → NativeKeyPair → Except JsError Buffer :=
  publicTransactionToHex crates crates.transactions.unbondTx .unbondStakeTx

def buildRawNodeJoinTransaction (options : BuildRawNodeJoinTransactionOptions) :
    Except JsError RawTx := do
  let address ← stakingAddress crates options.stakingAddress
    "Unable to deserialize stakingAddress"
  let nonce ← parseAccountNonce options.nonce
  let councilNode ← chainNeon (crates.transactions.councilNodeFromJson options.nodeMetaData)
    "Unable to deserialize nodeMetaData"
  let chainHexId ← chainHexIdFromVec options.chainHexId
  return rawTxObject crates.transactions.nodeJoinRequestTx {
    nonce := nonce, address := address, attributes := { chainHexId := chainHexId }
    nodeMeta := councilNode }

def nodeJoinTransactionToHex : Option Buffer → NativeKeyPair → Except JsError Buffer :=
  publicTransactionToHex crates crates.transactions.nodeJoinRequestTx .nodeJoinTx

/-- `UnjailTxProps`. -/
def parseUnjailTxProps (props : UnjailTransactionOptions) :
    Except JsError (UnjailTx crates.types) := do
  let address ← stakingAddress crates props.stakingAddress "Unable to deserialize stakingAddress"
  let nonce ← parseAccountNonce props.nonce
  let chainHexId ← chainHexIdFromVec props.chainHexId
  return { nonce := nonce, address := address, attributes := { chainHexId := chainHexId } }

def buildRawUnjailTransaction (options : UnjailTransactionOptions) : Except JsError RawTx := do
  return rawTxObject crates.transactions.unjailTx (← parseUnjailTxProps crates options)

def unjailTransactionToHex : Option Buffer → NativeKeyPair → Except JsError Buffer :=
  publicTransactionToHex crates crates.transactions.unjailTx .unjailTx

def unjailTxAuxArgument (bytes : Buffer) :
    Except JsError (UnjailTx crates.types × crates.types.StakedStateOpWitness) := do
  let txAux ← decode crates.transactions.txAux bytes "Unable to decode transaction bytes"
  match txAux with
  | .publicTx (.unjailTx tx witness) => return (tx, witness)
  | _ => throw (.error "Transaction is not an Unjail transaction")

def verifyUnjailTxAux (bytes : Buffer) (assertions : UnjailTransactionOptions) :
    Except JsError Unit := do
  let (tx, witness) ← unjailTxAuxArgument crates bytes
  let assertions ← parseUnjailTxProps crates assertions
  if tx.address ≠ assertions.address then
    throw (.error "Mismatch staking address")
  if tx.nonce ≠ assertions.nonce then
    throw (.error "Mismatch staking account nonce")
  if tx.attributes.chainHexId ≠ assertions.attributes.chainHexId then
    throw (.error "Mismatch chain hex id")
  let address ← chainNeon
    (crates.transactions.verifyTxRecoverAddress witness (crates.transactions.unjailTx.id tx))
    "Invalid signature"
  if address ≠ assertions.address then
    throw (.error "Incorrect signature")

/-- `schnorr_sign_txid`. -/
def schnorrSignTxId (message : Buffer) (keyPair : NativeKeyPair) : Except JsError Buffer := do
  let (privateKey, publicKey) ← parseKeyPair crates keyPair
  let signer ← chainNeon (KeyPairSigner.new crates privateKey publicKey)
    "Unable to create signer from KeyPair"
  let witness ← chainNeon (signer.schnorrSignTxid crates message) "Unable to sign message"
  return crates.transactions.txInWitness.encode witness

end ThalerNodelib.NativeStaking
