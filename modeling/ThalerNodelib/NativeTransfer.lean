import ThalerNodelib.NativeStaking

/-!
The functions of the native module for transfer transactions. Each but the
first reads a serialised raw transfer builder back. The number of leaves of an
input is computed in 64 bit arithmetic that wraps, where a division by zero
panics.
-/
namespace ThalerNodelib.NativeTransfer

open Js Native Network Crates FunctionTypes NativeStaking

/-! The number of leaves. -/

/-- The variables of the loop of `transfer_address_leaves`. -/
structure Leaves where
  n : ℕ
  d : ℕ
  result : ℕ
  deriving DecidableEq, Repr

/-- One iteration; `none` where it divides by zero. -/
def Leaves.iterate (s : Leaves) : Option Leaves :=
  let gcd := s.result.gcd s.d
  if gcd = 0 then none
  else if s.d / gcd = 0 then none
  else some {
    result := s.result / gcd * (s.n / (s.d / gcd)) % 2 ^ 64
    d := (s.d + 1) % 2 ^ 64
    n := (s.n + (2 ^ 64 - 1)) % 2 ^ 64 }

/-- How the loop ends. -/
inductive LeavesOutcome
  | leaves (count : UInt16)
  | panic
  | outOfFuel
  deriving DecidableEq, Repr

def leavesLoop (requiredSigners : ℕ) : ℕ → Leaves → LeavesOutcome
  | 0, _ => .outOfFuel
  | fuel + 1, s =>
    if s.d ≤ requiredSigners then
      match s.iterate with
      | none => .panic
      | some s => leavesLoop requiredSigners fuel s
    else .leaves (UInt16.ofNat s.result)

/-- `transfer_address_leaves`, with one unit of fuel for each check of the loop. -/
def transferAddressLeaves (totalSigners requiredSigners : ℕ) : LeavesOutcome :=
  leavesLoop requiredSigners (requiredSigners + 1) { n := totalSigners, d := 1, result := 1 }

variable (crates : Crates)

/-! Builder options. -/

structure RawTransactionOptionsInputAddressParams where
  requiredSigners : ℕ
  totalSigners : ℕ

structure RawTransactionOptionsInput where
  prevOutput : TxoPointer × TxOut crates.types
  addressParams : RawTransactionOptionsInputAddressParams

structure RawTransactionOptions where
  inputs : List (RawTransactionOptionsInput crates)
  outputs : List (TxOut crates.types)
  viewKeys : List crates.types.PublicKey
  chainHexId : UInt8

structure LinearFeeBuilderOptions where
  rawTxOptions : RawTransactionOptions crates
  feeAlgorithm : LinearFee crates.types

/-- Both numbers are read from the property `requiredSigners`. -/
def parseAddressParams (addressParams : InputAddressParams) :
    RawTransactionOptionsInputAddressParams where
  requiredSigners := addressParams.requiredSigners.toUnsigned 64
  totalSigners := addressParams.requiredSigners.toUnsigned 64

def parseInput (input : NativeInput) (network : NetworkEnum) :
    Except JsError (RawTransactionOptionsInput crates) := do
  let id ← txidFromStr input.prevTxId
  let txOut ← parseOutput crates input.prevOutput network
  return {
    prevOutput := ({ id := id, index := castU16 input.prevIndex }, txOut)
    addressParams := parseAddressParams input.addressParams }

def parseRawTxOptions (options : BuildIncompleteHexOptions) :
    Except JsError (RawTransactionOptions crates) := do
  let chainHexId ← chainHexIdFromVec options.chainHexId
  let network := networkFromChainHexId chainHexId
  let inputs ← options.inputs.mapM fun input => parseInput crates input network
  let outputs ← options.outputs.mapM fun output => parseOutput crates output network
  let viewKeys ← options.viewKeys.mapM (parseViewKey crates)
  return { inputs := inputs, outputs := outputs, viewKeys := viewKeys, chainHexId := chainHexId }

def parseLinearFeeFnCtx (options : BuildIncompleteHexOptions) :
    Except JsError (LinearFeeBuilderOptions crates) := do
  let rawTxOptions ← parseRawTxOptions crates options
  let feeAlgorithm ← parseLinearFeeConfig crates options.feeConfig
  return { rawTxOptions := rawTxOptions, feeAlgorithm := feeAlgorithm }

/-- What the parsed options of a builder were read from. -/
theorem parseLinearFeeFnCtx_eq_ok {options : BuildIncompleteHexOptions}
    {parsed : LinearFeeBuilderOptions crates} :
    parseLinearFeeFnCtx crates options = .ok parsed ↔
      options.chainHexId = [parsed.rawTxOptions.chainHexId] ∧
      List.Forall₂ (fun input p => parseInput crates input
        (networkFromChainHexId parsed.rawTxOptions.chainHexId) = .ok p)
        options.inputs parsed.rawTxOptions.inputs ∧
      List.Forall₂ (fun output p => parseOutput crates output
        (networkFromChainHexId parsed.rawTxOptions.chainHexId) = .ok p)
        options.outputs parsed.rawTxOptions.outputs ∧
      List.Forall₂ (fun viewKey p => parseViewKey crates viewKey = .ok p)
        options.viewKeys parsed.rawTxOptions.viewKeys ∧
      parseLinearFeeConfig crates options.feeConfig = .ok parsed.feeAlgorithm := by
  constructor
  · intro h
    obtain ⟨rawTxOptions, hraw, h⟩ := bind_eq_ok.mp h
    obtain ⟨feeAlgorithm, hfee, h⟩ := bind_eq_ok.mp h
    obtain ⟨chainHexId, hchain, hraw⟩ := bind_eq_ok.mp hraw
    obtain ⟨inputs, hinputs, hraw⟩ := bind_eq_ok.mp hraw
    obtain ⟨outputs, houtputs, hraw⟩ := bind_eq_ok.mp hraw
    obtain ⟨viewKeys, hviewKeys, hraw⟩ := bind_eq_ok.mp hraw
    obtain rfl := Except.ok.inj hraw
    obtain rfl := Except.ok.inj h
    exact ⟨chainHexIdFromVec_eq_ok.mp hchain, (mapM_eq_ok _ _ _).mp hinputs,
      (mapM_eq_ok _ _ _).mp houtputs, (mapM_eq_ok _ _ _).mp hviewKeys, hfee⟩
  · intro hparts
    obtain ⟨hchain, hinputs, houtputs, hviewKeys, hfee⟩ := hparts
    refine bind_eq_ok.mpr ⟨parsed.rawTxOptions, ?_, bind_eq_ok.mpr ⟨_, hfee, rfl⟩⟩
    refine bind_eq_ok.mpr ⟨_, chainHexIdFromVec_eq_ok.mpr hchain, ?_⟩
    refine bind_eq_ok.mpr ⟨_, (mapM_eq_ok _ _ _).mpr hinputs, ?_⟩
    refine bind_eq_ok.mpr ⟨_, (mapM_eq_ok _ _ _).mpr houtputs, ?_⟩
    exact bind_eq_ok.mpr ⟨_, (mapM_eq_ok _ _ _).mpr hviewKeys, rfl⟩

/-! The functions. -/

/-- The leaves that an input is registered with. -/
def inputLeaves (input : RawTransactionOptionsInput crates) : Except JsError UInt16 :=
  match transferAddressLeaves input.addressParams.totalSigners
    input.addressParams.requiredSigners with
  | .leaves count => .ok count
  | .panic => .error (.error (crates.neon.panic "attempt to divide by zero"))
  | .outOfFuel => .error (.error (crates.neon.panic ""))

/-- What the builder is given for each input. -/
def registeredInputs (inputs : List (RawTransactionOptionsInput crates)) :
    Except JsError (List ((TxoPointer × TxOut crates.types) × UInt16)) :=
  inputs.mapM fun input => do return (input.prevOutput, ← inputLeaves crates input)

def buildIncompleteHexLinearFee (options : BuildIncompleteHexOptions) : Except JsError Buffer := do
  let options ← parseLinearFeeFnCtx crates options
  let attributes : TxAttributes crates.types := {
    chainHexId := options.rawTxOptions.chainHexId
    allowedView := accessPolicies crates options.rawTxOptions.viewKeys }
  let builder := crates.core.new attributes options.feeAlgorithm
  let inputs ← registeredInputs crates options.rawTxOptions.inputs
  let builder := inputs.foldl (fun builder input => crates.core.addInput builder input.1 input.2)
    builder
  let builder := options.rawTxOptions.outputs.foldl crates.core.addOutput builder
  return crates.core.toIncomplete builder

def incompleteBuilderLinearFeeArgument (builder : IncompleteBuilder) :
    Except JsError crates.core.Builder := do
  let incompleteHex ← downcastBuffer crates builder.incompleteHex
    "Unable to downcast incompleteHex"
  let linearFee ← parseLinearFeeConfig crates builder.feeConfig
  chainNeon (crates.core.fromIncomplete incompleteHex linearFee)
    "Unable to deserialize raw transfer transaction hex"

def parseInputIndex (index : JsNumber) : Except JsError ℕ :=
  chainNeon index.parseUsize "Unable to deserialize input index"

def addInputWitnessLinearFee (builder : IncompleteBuilder) (index : JsNumber) (witness : Buffer) :
    Except JsError Buffer := do
  let builder ← incompleteBuilderLinearFeeArgument crates builder
  let witness ← decode crates.transactions.txInWitness witness
    "Unable to decode raw witness bytes"
  let inputIndex ← parseInputIndex index
  let builder ← chainNeon (crates.core.addWitness builder inputIndex witness)
    "Unable to add witness to input"
  return crates.core.toIncomplete builder

def signInputLinearFee (builder : IncompleteBuilder) (index : JsNumber) (keyPair : NativeKeyPair) :
    Except JsError Buffer := do
  let builder ← incompleteBuilderLinearFeeArgument crates builder
  let (privateKey, publicKey) ← parseKeyPair crates keyPair
  let inputIndex ← parseInputIndex index
  let signer ← chainNeon (KeyPairSigner.new crates privateKey publicKey)
    "Unable to create KeyPair signer"
  let witness ← chainNeon (signer.schnorrSignTxid crates (crates.core.txId builder).val)
    "Unable to sign transaction"
  let builder ← chainNeon (crates.core.addWitness builder inputIndex witness)
    "Unable to add witness to input"
  return crates.core.toIncomplete builder

def isCompletedLinearFee (builder : IncompleteBuilder) : Except JsError Bool := do
  let builder ← incompleteBuilderLinearFeeArgument crates builder
  return crates.core.isCompleted builder

def txIdLinearFee (builder : IncompleteBuilder) : Except JsError String := do
  let builder ← incompleteBuilderLinearFeeArgument crates builder
  return hexEncode (crates.core.txId builder).val

def estimateFeeLinearFee (builder : IncompleteBuilder) : Except JsError String := do
  let builder ← incompleteBuilderLinearFeeArgument crates builder
  feeText crates (crates.core.estimateFee builder)

def verifyLinearFee (builder : IncompleteBuilder) : Except JsError Unit := do
  let builder ← incompleteBuilderLinearFeeArgument crates builder
  chainNeon (crates.core.verify builder) "Error when trying to verify raw transfer transaction"

/-- The cipher of the mock feature, written for transfers only. -/
def mockTransactionCipher (transaction : SignedTransaction crates.types) :
    Except String (TxAux crates.types) :=
  let txpayload := crates.transactions.signedTransactionEncode transaction
  match transaction with
  | .transferTransaction tx _ =>
    .ok (.enclaveTx (.transferTx tx.inputs (UInt16.ofNat tx.outputs.length) {
      txid := crates.transactions.tx.id tx
      keyFrom := 0
      initVector := List.replicate 12 0
      txpayload := txpayload }))
  | _ => .error (crates.neon.panic "internal error: entered unreachable code")

/-- The obfuscation that the features choose. -/
def obfuscation (tendermintAddress : String) (features : Features) :
    Except JsError (SignedTransaction crates.types → Except String (TxAux crates.types)) :=
  match features with
  | .allDefault => do
    let client ← websocketClient crates tendermintAddress
    chainNeon (crates.obfuscation.defaultFromTxQuery client)
      "Unable to create transaction obfuscation from tx query address"
  | .mockAbci => do
    let client ← websocketClient crates tendermintAddress
    return crates.obfuscation.mockAbciEncrypt client
  | .mockObfuscation => .ok (mockTransactionCipher crates)

def toHexLinearFee (builder : IncompleteBuilder) (tendermintAddress : String)
    (features : Features) : Except JsError Buffer := do
  let builder ← incompleteBuilderLinearFeeArgument crates builder
  let encrypt ← obfuscation crates tendermintAddress features
  let txAux ← chainNeon (crates.core.toTxAux builder encrypt) "Unable to finish transaction"
  return txAuxToHex crates txAux

end ThalerNodelib.NativeTransfer
