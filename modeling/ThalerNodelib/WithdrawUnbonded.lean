import ThalerNodelib.LazyCell
import ThalerNodelib.Runs
import ThalerNodelib.Types

/-!
The builder of withdraw unbonded transactions. Each method is written as the
class has it, statement by statement, with the cached raw transaction and its
id as two fields beside the witness. Six methods open with the same guard,
which fills the two fields where they are empty.
-/
namespace ThalerNodelib.WithdrawUnbonded

open Js Native Network KeyPairs ThalerNodelib.Types Runs

/-- `MAX_OUTPUT_SIZE`. -/
def maxOutputSize : ℕ := 65536

structure WithdrawUnbondedTransactionBuilder where
  network : NetworkConfig
  network_accepted : owNetworkConfig network = true
  nonce : BigNumber
  nonce_accepted : owAccountNonce nonce = none
  outputs : List Output
  viewKeys : List Buffer
  unsignedRawTx : Option Buffer
  innertTxId : Option String
  witness : Option Buffer

structure WithdrawUnbondedTransactionBuilderOptions where
  nonce : BigNumber
  network : Option NetworkConfig

def owWithdrawUnbondedTransactionBuilderOptions
    (options : WithdrawUnbondedTransactionBuilderOptions) : Option String :=
  owAccountNonce options.nonce <|> check (owOptionalNetworkConfig options.network) ""

theorem options_accepted {options : WithdrawUnbondedTransactionBuilderOptions}
    (h : owWithdrawUnbondedTransactionBuilderOptions options = none) :
    owAccountNonce options.nonce = none ∧ owOptionalNetworkConfig options.network = true := by
  simpa [owWithdrawUnbondedTransactionBuilderOptions, Option.orElse_eq_none] using h

namespace WithdrawUnbondedTransactionBuilder

/-- The builder that the constructor leaves when it accepts the options. -/
def empty (options : WithdrawUnbondedTransactionBuilderOptions)
    (h : owWithdrawUnbondedTransactionBuilderOptions options = none) :
    WithdrawUnbondedTransactionBuilder where
  network := initNetwork options.network
  network_accepted := initNetwork_accepted (options_accepted h).2
  nonce := options.nonce
  nonce_accepted := (options_accepted h).1
  outputs := []
  viewKeys := []
  unsignedRawTx := none
  innertTxId := none
  witness := none

def new (options : WithdrawUnbondedTransactionBuilderOptions) :
    Except JsError WithdrawUnbondedTransactionBuilder :=
  match h : owWithdrawUnbondedTransactionBuilderOptions options with
  | some message => .error (.argumentError "options" message)
  | none => .ok (empty options h)

theorem new_eq_ok {options : WithdrawUnbondedTransactionBuilderOptions}
    {b : WithdrawUnbondedTransactionBuilder} :
    new options = .ok b ↔
      ∃ h : owWithdrawUnbondedTransactionBuilderOptions options = none, b = empty options h := by
  unfold new
  split
  · rename_i message h
    simp [h]
  · rename_i h
    simp [h, eq_comm]

variable (b : WithdrawUnbondedTransactionBuilder)

def feeConfig : FeeConfig := b.network.feeConfig

def getTotalOutputAmount : BigNumber :=
  b.outputs.foldl (fun total output => total.plus output.value) (.ofNat 0)

def isRawTxPrepared : Bool := b.unsignedRawTx.isSome

def hasOutput : Bool := decide (b.outputs.length > 0)

def isSigned : Bool := b.witness.isSome

def isCompleted : Bool := if !b.hasOutput then false else b.isSigned

def getWitness : Except JsError (Option Buffer) :=
  if !b.isSigned then .error (.error "Builder is not signed") else .ok b.witness

def isTransferAddressInNetwork (native : NativeModule) (address : String) :
    Except JsError Bool :=
  native.address.isTransferAddressValid address b.network.name

/-- The argument of `buildRawWithdrawUnbondedTransaction`. -/
def rawTxOptions : BuildRawWithdrawUnbondedTransactionOptions where
  nonce := b.nonce.toString10
  outputs := b.outputs.map parseOutputForNative
  viewKeys := b.viewKeys
  chainHexId := b.network.chainHexId

def clearPreparedRawTx : WithdrawUnbondedTransactionBuilder :=
  { b with unsignedRawTx := none, innertTxId := none }

def setPreparedRawTx (rawTx : RawTx) : WithdrawUnbondedTransactionBuilder :=
  { b with unsignedRawTx := some rawTx.unsignedRawTx, innertTxId := some rawTx.txId }

@[simp] theorem clearPreparedRawTx_rawTxOptions :
    b.clearPreparedRawTx.rawTxOptions = b.rawTxOptions := rfl

@[simp] theorem clearPreparedRawTx_hasOutput : b.clearPreparedRawTx.hasOutput = b.hasOutput := rfl

@[simp] theorem clearPreparedRawTx_isSigned : b.clearPreparedRawTx.isSigned = b.isSigned := rfl

@[simp] theorem clearPreparedRawTx_isRawTxPrepared :
    b.clearPreparedRawTx.isRawTxPrepared = false := rfl

variable (rawTx : RawTx)

@[simp] theorem setPreparedRawTx_rawTxOptions :
    (b.setPreparedRawTx rawTx).rawTxOptions = b.rawTxOptions := rfl

@[simp] theorem setPreparedRawTx_hasOutput :
    (b.setPreparedRawTx rawTx).hasOutput = b.hasOutput := rfl

@[simp] theorem setPreparedRawTx_isSigned :
    (b.setPreparedRawTx rawTx).isSigned = b.isSigned := rfl

@[simp] theorem setPreparedRawTx_isRawTxPrepared :
    (b.setPreparedRawTx rawTx).isRawTxPrepared = true := rfl

end WithdrawUnbondedTransactionBuilder

abbrev Builder := WithdrawUnbondedTransactionBuilder

variable (native : NativeModule) (runtime : Runtime)

def addOutput (output : Output) : Method Builder Unit := do
  call (owNative (owWithdrawUnbondedOutput native output) "output")
  if (← get).outputs.length = maxOutputSize then
    throw (.error "Exceeded maximum number of outputs")
  let inNetwork ← call ((← get).isTransferAddressInNetwork native output.address)
  if !inNetwork then
    throw (.error "Address does not belongs to the builder network")
  modify fun b => b.clearPreparedRawTx
  modify fun b => { b with outputs := b.outputs ++ [output] }

def addViewKey (viewKey : Buffer) : Method Builder Unit := do
  call (owNative (owViewKey native viewKey) "viewKey")
  modify fun b => b.clearPreparedRawTx
  modify fun b => { b with viewKeys := b.viewKeys ++ [viewKey] }

def prepareRawTx : Method Builder Unit := do
  let rawTx ← call (native.stakingTransaction.buildRawWithdrawUnbondedTransaction
    (← get).rawTxOptions)
  modify fun b => b.setPreparedRawTx rawTx

/-- The guard that the methods below share. -/
def ensurePrepared : Method Builder Unit := do
  if !(← get).isRawTxPrepared then
    if !(← get).hasOutput then
      throw (.error "Builder has no output")
    prepareRawTx native

def estimateFee : Method Builder String := do
  ensurePrepared native
  let feeConfig ← call (parseFeeConfigForNative (← get).feeConfig)
  call (native.stakingTransaction.estimateWithdrawUnbondedTransactionFee
    (← get).unsignedRawTx feeConfig)

def txId : Method Builder (Option String) := do
  ensurePrepared native
  return (← get).innertTxId

def toUnsignedHex : Method Builder Buffer := do
  ensurePrepared native
  match (← get).unsignedRawTx with
  | some unsignedRawTx => return bufferFromHex "0002" ++ unsignedRawTx
  | none => throw (.typeError "The \"list[1]\" argument must be an instance of Buffer")

def sign (keyPair : KeyPair native) : Method Builder Unit := do
  ensurePrepared native
  let witness ← call (native.stakingTransaction.withdrawUnbondedTransactionToWitness
    (← get).unsignedRawTx keyPair.toObject)
  modify fun b => { b with witness := some witness }

def addWitness (witness : Buffer) : Method Builder Unit := do
  call (ow (owStakedStateOpWitness witness) "witness")
  ensurePrepared native
  modify fun b => { b with witness := some witness }

/-- The one export that does not prepare the raw transaction. -/
def toSignedPlainHex : Method Builder Buffer := do
  if !(← get).isSigned then
    throw (.error "Builder is not signed")
  let signedRawTx ← call (native.stakingTransaction.withdrawUnbondedTransactionToSignedPlainHex
    (← get).unsignedRawTx (← get).witness)
  return bufferFromHex "00" ++ signedRawTx

def toHex (tendermintAddress : Option String) : Method Builder Buffer := do
  let tendermintAddress := tendermintAddress.getD defaultTendermintAddress
  call (ow (owTendermintAddress runtime tendermintAddress) "tendermintAddress")
  ensurePrepared native
  if !(← get).isSigned then
    throw (.error "Builder is not signed")
  call (native.stakingTransaction.withdrawUnbondedTransactionToObfuscatedHex
    (← get).unsignedRawTx (← get).witness tendermintAddress
    (getRustFeaturesFromEnv runtime.nodeEnv))

/-- The methods that only read the fields of the builder. -/
inductive Query
  | getNetwork
  | getNonce
  | feeConfig
  | getTotalOutputAmount
  | outputsLength
  | viewKeysLength
  | getWitness
  | isSigned
  | isCompleted
  | hasOutput

inductive Call (native : NativeModule)
  | addOutput (output : Output)
  | addViewKey (viewKey : Buffer)
  | sign (keyPair : KeyPair native)
  | addWitness (witness : Buffer)
  | txId
  | estimateFee
  | toUnsignedHex
  | toSignedPlainHex
  | toHex (tendermintAddress : Option String)
  | query (q : Query)

inductive Value
  | this
  | undefined
  | text (value : String)
  | buffer (value : Buffer)
  | number (value : ℕ)
  | bigNumber (value : BigNumber)
  | flag (value : Bool)
  | network (value : NetworkConfig)
  | feeConfig (value : FeeConfig)
  deriving DecidableEq

def Value.ofText (value : Option String) : Value := value.elim .undefined .text

def Value.ofBuffer (value : Option Buffer) : Value := value.elim .undefined .buffer

def answer (b : Builder) : Query → Except JsError Value
  | .getNetwork => .ok (.network b.network)
  | .getNonce => .ok (.bigNumber b.nonce)
  | .feeConfig => .ok (.feeConfig b.feeConfig)
  | .getTotalOutputAmount => .ok (.bigNumber b.getTotalOutputAmount)
  | .outputsLength => .ok (.number b.outputs.length)
  | .viewKeysLength => .ok (.number b.viewKeys.length)
  | .getWitness => b.getWitness.map Value.ofBuffer
  | .isSigned => .ok (.flag b.isSigned)
  | .isCompleted => .ok (.flag b.isCompleted)
  | .hasOutput => .ok (.flag b.hasOutput)

def machine : Machine JsError Builder (Call native) Value
  | .addOutput output => do addOutput native output; return .this
  | .addViewKey viewKey => do addViewKey native viewKey; return .this
  | .sign keyPair => do sign native keyPair; return .this
  | .addWitness witness => do addWitness native witness; return .this
  | .txId => return .ofText (← txId native)
  | .estimateFee => return .text (← estimateFee native)
  | .toUnsignedHex => return .buffer (← toUnsignedHex native)
  | .toSignedPlainHex => return .buffer (← toSignedPlainHex native)
  | .toHex tendermintAddress => return .buffer (← toHex native runtime tendermintAddress)
  | .query q => do call (answer (← get) q)

/-- The cached raw transaction: what a call computes where nothing is cached. -/
def cell : LazyCell JsError Builder RawTx where
  clear b := b.clearPreparedRawTx
  fill b rawTx := b.setPreparedRawTx rawTx
  build b :=
    if b.hasOutput then
      native.stakingTransaction.buildRawWithdrawUnbondedTransaction b.rawTxOptions
    else .error (.error "Builder has no output")
  clear_clear _ := rfl
  clear_fill _ _ := rfl
  fill_clear _ _ := rfl
  fill_fill _ _ _ := rfl
  build_clear _ := rfl
  build_fill _ _ := rfl

@[simp] theorem cell_clear (b : Builder) : (cell native).clear b = b.clearPreparedRawTx := rfl

@[simp] theorem cell_fill (b : Builder) (rawTx : RawTx) :
    (cell native).fill b rawTx = b.setPreparedRawTx rawTx := rfl

end ThalerNodelib.WithdrawUnbonded
