import ThalerNodelib.LazyCell
import ThalerNodelib.Runs
import ThalerNodelib.Types

/-!
The builder of deposit transactions. The witnesses stand in the input list and
the raw transaction and its id beside it; `addInput` drops both. An index is
any number, so a fraction passes the bounds check and then names no input.
-/
namespace ThalerNodelib.Deposit

open Js Native Network KeyPairs ThalerNodelib.Types Runs

structure WitnessedPrevOutputPointer where
  prevOutputPointer : PrevOutputPointer
  witness : Option Buffer
  deriving DecidableEq

structure DepositTransactionBuilder (native : NativeModule) where
  network : NetworkConfig
  network_accepted : owNetworkConfig network = true
  inputs : List WitnessedPrevOutputPointer
  stakingAddress : String
  stakingAddress_accepted : owStakingAddress native stakingAddress = .ok none
  unsignedRawTx : Option Buffer
  innertTxId : Option String

structure DepositTransactionBuilderOptions where
  stakingAddress : String
  network : Option NetworkConfig

variable (native : NativeModule)

def owDepositTransactionOptions (options : DepositTransactionBuilderOptions) :
    Except JsError (Option String) := do
  let stakingAddress ← owStakingAddress native options.stakingAddress
  return stakingAddress <|> check (owOptionalNetworkConfig options.network) ""

theorem options_accepted {options : DepositTransactionBuilderOptions}
    (h : owDepositTransactionOptions native options = .ok none) :
    owStakingAddress native options.stakingAddress = .ok none ∧
      owOptionalNetworkConfig options.network = true := by
  unfold owDepositTransactionOptions at h
  cases haddress : owStakingAddress native options.stakingAddress with
  | error e =>
    rw [haddress] at h
    cases h
  | ok failure =>
    rw [haddress] at h
    have hnone := Except.ok.inj h
    cases failure with
    | some message => cases hnone
    | none => exact ⟨rfl, (check_eq_none _ _).mp hnone⟩

namespace DepositTransactionBuilder

variable {native}

/-- The builder that the constructor leaves when it accepts the options. -/
def empty (options : DepositTransactionBuilderOptions)
    (h : owDepositTransactionOptions native options = .ok none) :
    DepositTransactionBuilder native where
  network := initNetwork options.network
  network_accepted := initNetwork_accepted (options_accepted native h).2
  inputs := []
  stakingAddress := options.stakingAddress
  stakingAddress_accepted := (options_accepted native h).1
  unsignedRawTx := none
  innertTxId := none

variable (native) in
def new (options : DepositTransactionBuilderOptions) :
    Except JsError (DepositTransactionBuilder native) :=
  match h : owDepositTransactionOptions native options with
  | .error e => .error e
  | .ok (some message) => .error (.argumentError "options" message)
  | .ok none => .ok (empty options h)

theorem new_eq_ok {options : DepositTransactionBuilderOptions}
    {b : DepositTransactionBuilder native} :
    new native options = .ok b ↔
      ∃ h : owDepositTransactionOptions native options = .ok none, b = empty options h := by
  unfold new
  split
  · rename_i h
    simp [h]
  · rename_i h
    simp [h]
  · rename_i h
    simp [h, eq_comm]

variable (b : DepositTransactionBuilder native)

def inputsLength : ℕ := b.inputs.length

def hasInput : Bool := b.inputs.length != 0

def isRawTxPrepared : Bool := b.unsignedRawTx.isSome

def isCompleted : Bool :=
  if !b.hasInput then false
  else
    let inputHasMissingWitness := b.inputs.find? fun input => !input.witness.isSome
    !inputHasMissingWitness.isSome

def verifyHasInput : Except JsError Unit :=
  if !b.hasInput then .error (.error "Builder has no input") else .ok ()

def verifyTxIsSignable : Except JsError Unit := b.verifyHasInput

def verifyInputIndex (index : JsNumber) : Except JsError Unit :=
  if index.lt (.ofNat 0) || (JsNumber.ofNat b.inputsLength).le index then
    .error (.error "Input index out of bound")
  else .ok ()

/-- The element `inputs[index]`. -/
def inputAt (index : JsNumber) : Option WitnessedPrevOutputPointer :=
  index.arrayIndex.bind fun i => b.inputs[i]?

def hasWitness (index : JsNumber) : Except JsError Bool := do
  ow (owNumber index) "index"
  b.verifyInputIndex index
  match b.inputAt index with
  | some input => return input.witness.isSome
  | none => .error (.typeError "Cannot read property 'witness' of undefined")

/-- The argument of `buildRawDepositTransaction`. -/
def rawTxOptions : BuildRawDepositTransactionOptions where
  inputs := b.inputs.map WitnessedPrevOutputPointer.prevOutputPointer
  toAddress := b.stakingAddress
  chainHexId := b.network.chainHexId

def clearWitnesses : DepositTransactionBuilder native :=
  { b with inputs := b.inputs.map fun input => { input with witness := none } }

def clearPreparedRawTx : DepositTransactionBuilder native :=
  { b with unsignedRawTx := none, innertTxId := none }

def clearCachedData : DepositTransactionBuilder native := b.clearWitnesses.clearPreparedRawTx

def setPreparedRawTx (rawTx : RawTx) : DepositTransactionBuilder native :=
  { b with unsignedRawTx := some rawTx.unsignedRawTx, innertTxId := some rawTx.txId }

def pushInput (prevOutputPointer : PrevOutputPointer) : DepositTransactionBuilder native :=
  { b with inputs := b.inputs ++ [⟨prevOutputPointer, none⟩] }

/-- Sets the witness of the input that a valid array index names. -/
def setWitness (i : ℕ) (witness : Buffer) : DepositTransactionBuilder native :=
  { b with inputs := b.inputs.modify i fun input => { input with witness := some witness } }

end DepositTransactionBuilder

abbrev Builder := DepositTransactionBuilder native

variable (runtime : Runtime)

def addInput (prevOutputPointer : PrevOutputPointer) : Method (Builder native) Unit := do
  call (ow (owPrevOutputPointer prevOutputPointer) "prevOutputPointer")
  modify fun b => b.clearCachedData
  modify fun b => b.pushInput prevOutputPointer

def prepareRawTx : Method (Builder native) Unit := do
  let rawTx ← call (native.stakingTransaction.buildRawDepositTransaction (← get).rawTxOptions)
  modify fun b => b.setPreparedRawTx rawTx

/-- The guard that `txId`, `signInput` and `toHex` share. -/
def ensurePrepared : Method (Builder native) Unit := do
  if !(← get).isRawTxPrepared then
    call (← get).verifyTxIsSignable
    prepareRawTx native

/-- `this.inputs[index].witness = witness`. -/
def assignWitness (index : JsNumber) (witness : Buffer) : Method (Builder native) Unit := do
  match index.arrayIndex with
  | some i =>
    if i < (← get).inputsLength then
      modify fun b => b.setWitness i witness
    else throw (.typeError "Cannot set property 'witness' of undefined")
  | none => throw (.typeError "Cannot set property 'witness' of undefined")

def txId : Method (Builder native) (Option String) := do
  ensurePrepared native
  return (← get).innertTxId

def signInput (index : JsNumber) (keyPair : KeyPair native) : Method (Builder native) Unit := do
  call (ow (owNumber index) "index")
  ensurePrepared native
  call ((← get).verifyInputIndex index)
  match (← get).innertTxId with
  | none => throw (.typeError "The first argument must be of type string or an instance of Buffer")
  | some txId =>
    let witness ← call (native.signer.schnorrSignTxId (bufferFromHex txId) keyPair.toObject)
    assignWitness native index witness

/-- Unlike `signInput`, does not prepare the raw transaction. -/
def addWitness (index : JsNumber) (witness : Buffer) : Method (Builder native) Unit := do
  call (ow (owNumber index) "index")
  call (← get).verifyTxIsSignable
  call ((← get).verifyInputIndex index)
  assignWitness native index witness

def toUnsignedHex : Method (Builder native) (Option Buffer) := do
  call (← get).verifyHasInput
  if !(← get).isRawTxPrepared then
    prepareRawTx native
  return (← get).unsignedRawTx

def toHex (tendermintAddress : Option String) : Method (Builder native) Buffer := do
  let tendermintAddress := tendermintAddress.getD defaultTendermintAddress
  call (ow (owTendermintAddress runtime tendermintAddress) "tendermintAddress")
  ensurePrepared native
  if !(← get).isCompleted then
    throw (.error "Transaction builder is not completed")
  let txInWitnesses := (← get).inputs.map WitnessedPrevOutputPointer.witness
  call (native.stakingTransaction.depositTransactionToHex (← get).unsignedRawTx txInWitnesses
    tendermintAddress (getRustFeaturesFromEnv runtime.nodeEnv))

/-- The methods that only read the fields of the builder. -/
inductive Query
  | getNetwork
  | getStakingAddress
  | inputsLength
  | hasWitness (index : JsNumber)
  | isCompleted

inductive Call (native : NativeModule)
  | addInput (prevOutputPointer : PrevOutputPointer)
  | signInput (index : JsNumber) (keyPair : KeyPair native)
  | addWitness (index : JsNumber) (witness : Buffer)
  | txId
  | toUnsignedHex
  | toHex (tendermintAddress : Option String)
  | query (q : Query)

inductive Value
  | this
  | undefined
  | text (value : String)
  | buffer (value : Buffer)
  | number (value : ℕ)
  | flag (value : Bool)
  | network (value : NetworkConfig)
  deriving DecidableEq

def Value.ofText (value : Option String) : Value := value.elim .undefined .text

def Value.ofBuffer (value : Option Buffer) : Value := value.elim .undefined .buffer

def answer (b : Builder native) : Query → Except JsError Value
  | .getNetwork => .ok (.network b.network)
  | .getStakingAddress => .ok (.text b.stakingAddress)
  | .inputsLength => .ok (.number b.inputsLength)
  | .hasWitness index => (b.hasWitness index).map .flag
  | .isCompleted => .ok (.flag b.isCompleted)

def machine : Machine JsError (Builder native) (Call native) Value
  | .addInput prevOutputPointer => do addInput native prevOutputPointer; return .this
  | .signInput index keyPair => do signInput native index keyPair; return .this
  | .addWitness index witness => do addWitness native index witness; return .this
  | .txId => return .ofText (← txId native)
  | .toUnsignedHex => return .ofBuffer (← toUnsignedHex native)
  | .toHex tendermintAddress => return .buffer (← toHex native runtime tendermintAddress)
  | .query q => do call (answer native (← get) q)

/-- The cached raw transaction of the inputs. -/
def cell : LazyCell JsError (Builder native) RawTx where
  clear b := b.clearPreparedRawTx
  fill b rawTx := b.setPreparedRawTx rawTx
  build b :=
    if b.hasInput then native.stakingTransaction.buildRawDepositTransaction b.rawTxOptions
    else .error (.error "Builder has no input")
  clear_clear _ := rfl
  clear_fill _ _ := rfl
  fill_clear _ _ := rfl
  fill_fill _ _ _ := rfl
  build_clear _ := rfl
  build_fill _ _ := rfl

end ThalerNodelib.Deposit
