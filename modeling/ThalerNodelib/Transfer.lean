import ThalerNodelib.Runs
import ThalerNodelib.Types

/-!
The builder of transfer transactions. Beside its three lists it keeps the
incomplete transaction that the native module serialised, with the witnesses
given so far. Each of the three lists grows by a method that drops it, and the
two signing methods make it where there is none.
-/
namespace ThalerNodelib.Transfer

open Js Native Network KeyPairs ThalerNodelib.Types Runs

structure TransferTransactionBuilder where
  network : NetworkConfig
  network_accepted : owNetworkConfig network = true
  inputs : List Input
  outputs : List Output
  viewKeys : List Buffer
  incompleteHex : Option Buffer

/-- The validator also knows a `feeConfig` option, which nothing reads. -/
structure TransferTransactionBuilderOptions where
  network : Option NetworkConfig
  feeConfig : Option FeeConfig

def owTransferTransactionBuilderOptions : Option TransferTransactionBuilderOptions → Option String
  | none => none
  | some options =>
    check (owOptionalNetworkConfig options.network) "" <|>
      check (options.feeConfig.all owFeeConfig) ""

theorem options_accepted {options : Option TransferTransactionBuilderOptions}
    (h : owTransferTransactionBuilderOptions options = none) :
    owOptionalNetworkConfig (options.bind fun options => options.network) = true := by
  cases options with
  | none => rfl
  | some options =>
    have hnetwork := ((Option.orElse_eq_none _ _).mp h).1
    exact (check_eq_none _ _).mp hnetwork

namespace TransferTransactionBuilder

/-- The builder that the constructor leaves when it accepts the options. -/
def empty (options : Option TransferTransactionBuilderOptions)
    (h : owTransferTransactionBuilderOptions options = none) : TransferTransactionBuilder where
  network := initNetwork (options.bind fun options => options.network)
  network_accepted := initNetwork_accepted (options_accepted h)
  inputs := []
  outputs := []
  viewKeys := []
  incompleteHex := none

def new (options : Option TransferTransactionBuilderOptions) :
    Except JsError TransferTransactionBuilder :=
  match h : owTransferTransactionBuilderOptions options with
  | some message => .error (.argumentError "options" message)
  | none => .ok (empty options h)

theorem new_eq_ok {options : Option TransferTransactionBuilderOptions}
    {b : TransferTransactionBuilder} :
    new options = .ok b ↔
      ∃ h : owTransferTransactionBuilderOptions options = none, b = empty options h := by
  unfold new
  split
  · rename_i message h
    simp [h]
  · rename_i h
    simp [h, eq_comm]

variable (b : TransferTransactionBuilder)

def feeConfig : FeeConfig := b.network.feeConfig

def inputsLength : ℕ := b.inputs.length

def hasInput : Bool := b.inputs.length != 0

def hasOutput : Bool := b.outputs.length != 0

def isSigning : Bool := b.incompleteHex.isSome

def verifyHasInput : Except JsError Unit :=
  if !b.hasInput then .error (.error "Builder has no input") else .ok ()

def verifyHasOutput : Except JsError Unit :=
  if !b.hasOutput then .error (.error "Builder has no output") else .ok ()

/-- The index check of `signInput` and `addWitness`. -/
def owIndex (index : JsNumber) : Option String :=
  check (index != .nan && (JsNumber.ofNat 0).le index && index.lt (.ofNat b.inputsLength)) ""

/-- The element `inputs[index]`. -/
def inputAt (index : JsNumber) : Option Input := index.arrayIndex.bind fun i => b.inputs[i]?

def clearIncompleteSigningHex : TransferTransactionBuilder := { b with incompleteHex := none }

def unsupportedFeeAlgorithm : JsError :=
  .error s!"Unsupported fee algorithm {b.feeConfig.algorithm.text}"

variable (native : NativeModule)

def isTransferAddressInNetwork (address : String) : Except JsError Bool :=
  native.address.isTransferAddressValid address b.network.name

/-- The argument of `buildIncompleteHexLinearFee`. -/
def incompleteOptions (feeConfig : NativeFeeConfig) : BuildIncompleteHexOptions where
  chainHexId := b.network.chainHexId
  inputs := b.inputs.map parseInputForNative
  outputs := b.outputs.map parseOutputForNative
  viewKeys := b.viewKeys
  feeConfig := feeConfig

def buildIncompleteHexLinearFee : Except JsError Buffer := do
  let feeConfig ← parseFeeConfigForNative b.feeConfig
  native.transferTransaction.buildIncompleteHexLinearFee (b.incompleteOptions feeConfig)

def buildIncompleteHex : Except JsError Buffer :=
  if b.feeConfig.algorithm = .linearFee then b.buildIncompleteHexLinearFee native
  else .error b.unsupportedFeeAlgorithm

/-- Hands the incomplete transaction to a function of the native module, which
knows the linear fee only. -/
def linearFee {α : Type} (incompleteHex : Option Buffer)
    (function : IncompleteBuilder → Except JsError α) : Except JsError α :=
  if b.feeConfig.algorithm = .linearFee then do
    let feeConfig ← parseFeeConfigForNative b.feeConfig
    function ⟨incompleteHex, feeConfig⟩
  else .error b.unsupportedFeeAlgorithm

/-- Makes the transaction without witnesses anew, whether or not one is stored. -/
def estimateFee : Except JsError String :=
  if b.feeConfig.algorithm = .linearFee then do
    b.verifyHasInput
    b.verifyHasOutput
    let incompleteHex ← b.buildIncompleteHex native
    b.linearFee (some incompleteHex) native.transferTransaction.estimateFeeLinearFee
  else .error b.unsupportedFeeAlgorithm

/-- Makes the transaction without witnesses anew, whether or not one is stored. -/
def txId : Except JsError String := do
  b.verifyHasInput
  if b.feeConfig.algorithm = .linearFee then
    let incompleteHex ← b.buildIncompleteHex native
    b.linearFee (some incompleteHex) native.transferTransaction.txIdLinearFee
  else .error b.unsupportedFeeAlgorithm

def verify : Except JsError Unit := do
  b.verifyHasInput
  b.verifyHasOutput
  b.linearFee b.incompleteHex native.transferTransaction.verifyLinearFee

def toIncompleteHex : Except JsError Buffer :=
  match b.incompleteHex with
  | some incompleteHex => .ok incompleteHex
  | none => b.buildIncompleteHex native

def isCompleted : Except JsError Bool :=
  match b.incompleteHex with
  | none => .ok false
  | some incompleteHex =>
    b.linearFee (some incompleteHex) native.transferTransaction.isCompletedLinearFee

end TransferTransactionBuilder

abbrev Builder := TransferTransactionBuilder

variable (native : NativeModule) (runtime : Runtime)

/-- `transfer`, given a key pair. -/
def transfer (keyPair : KeyPair native) (network : NetworkConfig) : Except JsError String := do
  ow (check (owNetworkConfig network) "") "options"
  match keyPair.publicKey with
  | none => .error (.error "Missing public key in KeyPair")
  | some publicKey => native.address.getTransferAddressFromPublicKey publicKey network.name

def addInput (input : Input) : Method Builder Unit := do
  call (owNative (owInput native input) "input")
  let inNetwork ← call ((← get).isTransferAddressInNetwork native input.prevOutput.address)
  if !inNetwork then
    throw (.error "Previous output address does not belongs to the builder network")
  modify fun b => b.clearIncompleteSigningHex
  modify fun b => { b with inputs := b.inputs ++ [input] }

def addOutput (output : Output) : Method Builder Unit := do
  call (owNative (owOutput native output) "output")
  let inNetwork ← call ((← get).isTransferAddressInNetwork native output.address)
  if !inNetwork then
    throw (.error "Address does not belongs to the builder network")
  modify fun b => b.clearIncompleteSigningHex
  modify fun b => { b with outputs := b.outputs ++ [output] }

def addViewKey (viewKey : Buffer) : Method Builder Unit := do
  call (owNative (owViewKey native viewKey) "viewKey")
  modify fun b => b.clearIncompleteSigningHex
  modify fun b => { b with viewKeys := b.viewKeys ++ [viewKey] }

def prepareIncompleteSigningHex : Method Builder (Option Buffer) := do
  if !(← get).isSigning then
    let incompleteHex ← call ((← get).buildIncompleteHex native)
    modify fun b => { b with incompleteHex := some incompleteHex }
  return (← get).incompleteHex

/-- The key pair of `signInput` has to unlock the input as its only signer. -/
def verifySignable (b : Builder) (index : JsNumber) (keyPair : KeyPair native) :
    Except JsError Unit := do
  ow (b.owIndex index) "index"
  if !keyPair.hasPrivateKey then
    throw (.error "KeyPair does not have private key")
  let signingAddress ← transfer native keyPair b.network
  match b.inputAt index with
  | none => .error (.typeError "Cannot read property 'prevOutput' of undefined")
  | some input =>
    if input.prevOutput.address = signingAddress then .ok ()
    else .error (.error "Input address is not signable by the key pair")

def signInput (index : JsNumber) (keyPair : KeyPair native) : Method Builder Unit := do
  call (verifySignable native (← get) index keyPair)
  let incompleteSigningHex ← prepareIncompleteSigningHex native
  let updatedIncompleteSigningHex ← call ((← get).linearFee incompleteSigningHex fun builder =>
    native.transferTransaction.signInputLinearFee builder index keyPair.toObject)
  modify fun b => { b with incompleteHex := some updatedIncompleteSigningHex }

def addWitness (index : JsNumber) (witness : Buffer) : Method Builder Unit := do
  call (ow ((← get).owIndex index) "index")
  let incompleteSigningHex ← prepareIncompleteSigningHex native
  let updatedIncompleteSigningHex ← call ((← get).linearFee incompleteSigningHex fun builder =>
    native.transferTransaction.addInputWitnessLinearFee builder index witness)
  modify fun b => { b with incompleteHex := some updatedIncompleteSigningHex }

def toHex (b : Builder) (tendermintAddress : Option String) : Except JsError Buffer := do
  let tendermintAddress := tendermintAddress.getD defaultTendermintAddress
  ow (owTendermintAddress runtime tendermintAddress) "tendermintAddress"
  b.verifyHasInput
  b.verifyHasOutput
  if !(← b.isCompleted native) then
    throw (.error "Transaction is not completed")
  b.verify native
  let feeConfig ← parseFeeConfigForNative b.feeConfig
  native.transferTransaction.toHexLinearFee ⟨b.incompleteHex, feeConfig⟩ tendermintAddress
    (getRustFeaturesFromEnv runtime.nodeEnv)

/-- The methods that leave every field as it is. -/
inductive Query
  | getNetwork
  | feeConfig
  | estimateFee
  | inputsLength
  | outputsLength
  | viewKeysLength
  | txId
  | verify
  | toIncompleteHex
  | isCompleted
  | toHex (tendermintAddress : Option String)

inductive Call (native : NativeModule)
  | addInput (input : Input)
  | addOutput (output : Output)
  | addViewKey (viewKey : Buffer)
  | signInput (index : JsNumber) (keyPair : KeyPair native)
  | addWitness (index : JsNumber) (witness : Buffer)
  | query (q : Query)

inductive Value
  | this
  | undefined
  | text (value : String)
  | buffer (value : Buffer)
  | number (value : ℕ)
  | flag (value : Bool)
  | network (value : NetworkConfig)
  | feeConfig (value : FeeConfig)
  deriving DecidableEq

def answer (b : Builder) : Query → Except JsError Value
  | .getNetwork => .ok (.network b.network)
  | .feeConfig => .ok (.feeConfig b.feeConfig)
  | .estimateFee => (b.estimateFee native).map .text
  | .inputsLength => .ok (.number b.inputsLength)
  | .outputsLength => .ok (.number b.outputs.length)
  | .viewKeysLength => .ok (.number b.viewKeys.length)
  | .txId => (b.txId native).map .text
  | .verify => (b.verify native).map fun _ => .undefined
  | .toIncompleteHex => (b.toIncompleteHex native).map .buffer
  | .isCompleted => (b.isCompleted native).map .flag
  | .toHex tendermintAddress => (toHex native runtime b tendermintAddress).map .buffer

def machine : Machine JsError Builder (Call native) Value
  | .addInput input => do addInput native input; return .this
  | .addOutput output => do addOutput native output; return .this
  | .addViewKey viewKey => do addViewKey native viewKey; return .this
  | .signInput index keyPair => do signInput native index keyPair; return .undefined
  | .addWitness index witness => do addWitness native index witness; return .undefined
  | .query q => do call (answer native runtime (← get) q)

end ThalerNodelib.Transfer
