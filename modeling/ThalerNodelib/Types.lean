import ThalerNodelib.KeyPairs

/-!
Inputs, outputs and lock times with their validators, and the objects they
become for the native module. The validators call the native module where the
library does.
-/
namespace ThalerNodelib.Types

open Js Native Network

/-- `MAX_COIN`. -/
def maxCoin : ℕ := 10000000000000000000

def owCoin (value : BigNumber) : Option String :=
  check (value.isInteger && value.isGreaterThanOrEqualTo 0 && value.isLessThanOrEqualTo maxCoin)
    "Expected value to be within maximum coin: 10,000,000,000,000,000,000"

/-- `bigNumberU64Max`. -/
def bigNumberU64Max : ℕ := 2 ^ 64

def owAccountNonce (value : BigNumber) : Option String :=
  check (value.isInteger && value.isGreaterThanOrEqualTo 0 &&
      value.isLessThanOrEqualTo bigNumberU64Max)
    s!"Expected value to be positive BigNumber within maximum nonce: {bigNumberU64Max}"

theorem isLessThanOrEqualTo_ofNat (n m : ℕ) :
    (BigNumber.ofNat n).isLessThanOrEqualTo (m : ℕ) = decide (n ≤ m) := by
  simp [BigNumber.ofNat, BigNumber.isLessThanOrEqualTo]

theorem natural_iff (value : BigNumber) (bound : ℕ) :
    (value.isInteger && value.isGreaterThanOrEqualTo 0 &&
      value.isLessThanOrEqualTo bound) = true ↔ ∃ n, n ≤ bound ∧ value = .ofNat n := by
  constructor
  · intro h
    simp only [Bool.and_eq_true] at h
    obtain ⟨n, rfl⟩ := BigNumber.eq_ofNat_of_integer h.1.1 h.1.2
    exact ⟨n, by simpa [isLessThanOrEqualTo_ofNat] using h.2, rfl⟩
  · intro hnatural
    obtain ⟨n, hn, rfl⟩ := hnatural
    simp [BigNumber.isInteger, BigNumber.isGreaterThanOrEqualTo, BigNumber.ofNat,
      BigNumber.isLessThanOrEqualTo, hn]

/-- The accepted coins are the naturals up to `MAX_COIN`. -/
theorem owCoin_iff (value : BigNumber) :
    owCoin value = none ↔ ∃ n, n ≤ maxCoin ∧ value = .ofNat n := by
  rw [owCoin, check_eq_none]
  exact natural_iff value maxCoin

/-- The bound of the nonces is itself accepted. -/
theorem owAccountNonce_iff (value : BigNumber) :
    owAccountNonce value = none ↔ ∃ n, n ≤ bigNumberU64Max ∧ value = .ofNat n := by
  rw [owAccountNonce, check_eq_none]
  exact natural_iff value bigNumberU64Max

/-- `Timespec`: its constructor is private and `fromSeconds` takes positive integers. -/
structure Timespec where
  seconds : ℕ
  positive : 0 < seconds
  deriving DecidableEq

def Timespec.fromSeconds (seconds : JsNumber) : Except JsError Timespec :=
  match seconds.arrayIndex with
  | some n => if h : 0 < n then .ok ⟨n, h⟩ else .error (.argumentError "seconds" "")
  | none => .error (.argumentError "seconds" "")

def Timespec.toNumber (time : Timespec) : JsNumber := .ofNat time.seconds

structure Output where
  address : String
  value : BigNumber
  validFrom : Option Timespec
  deriving DecidableEq

def parseOutputForNative (output : Output) : NativeOutput where
  address := output.address
  value := output.value.toString10
  validFrom := output.validFrom.map Timespec.toNumber

structure Input where
  prevTxId : String
  prevIndex : JsNumber
  prevOutput : Output
  addressParams : InputAddressParams
  deriving DecidableEq

def parseInputForNative (input : Input) : NativeInput where
  prevTxId := input.prevTxId
  prevIndex := input.prevIndex
  prevOutput := parseOutputForNative input.prevOutput
  addressParams := input.addressParams

/-- `/^[0-9A-Fa-f]{64}$/`. -/
def owTxId (value : String) : Option String :=
  check (value.toList.length == 64 && value.toList.all isHexDigit) ""

/-- `ow.number`: not NaN. -/
def owNumber (value : JsNumber) : Option String := check (value != .nan) ""

def owPositiveInteger (value : JsNumber) : Option String :=
  check (value.isInteger && (JsNumber.ofNat 0).lt value) ""

def owInputAddressParams (value : InputAddressParams) : Option String :=
  owPositiveInteger value.requiredSigners <|> owPositiveInteger value.totalSigners <|>
    check (value.requiredSigners.le value.totalSigners)
      "Total signers should be greater than or equal to required signers"

variable (native : NativeModule)

def validateTransferAddress (value : String) : Except JsError Bool :=
  if value.startsWith "cro" then
    native.address.isTransferAddressValid value NetworkEnum.mainnet.name
  else if value.startsWith "tcro" then
    native.address.isTransferAddressValid value NetworkEnum.testnet.name
  else if value.startsWith "dcro" then
    native.address.isTransferAddressValid value NetworkEnum.devnet.name
  else .ok false

def owTransferAddress (value : String) : Except JsError (Option String) := do
  return check (← validateTransferAddress native value)
    "Expected value to be a valid transfer address"

def owStakingAddress (value : String) : Except JsError (Option String) := do
  return check (← native.address.isStakingAddressValid value)
    "Expected value to be a valid staking address"

def owViewKey (value : Buffer) : Except JsError (Option String) := do
  return check (← native.keyPair.isValidViewKey value) "Expected value to be a valid view key"

/-- `/^(ws)s?/`, and a URL. -/
def owTendermintAddress (runtime : Runtime) (value : String) : Option String :=
  check (value.startsWith "ws" && runtime.isURL value)
    "Expected value to be HTTP or WS tendermint address"

theorem startsWith_of_owTendermintAddress {runtime : Runtime} {value : String}
    (h : owTendermintAddress runtime value = none) : value.startsWith "ws" = true := by
  rw [owTendermintAddress, check_eq_none, Bool.and_eq_true] at h
  exact h.1

def owOutput (output : Output) : Except JsError (Option String) := do
  let address ← owTransferAddress native output.address
  return address <|> owCoin output.value

/-- The lock time is optional in `owOutput` and required here. -/
def owWithdrawUnbondedOutput (output : Output) : Except JsError (Option String) := do
  let address ← owTransferAddress native output.address
  return address <|> owCoin output.value <|> check output.validFrom.isSome ""

def owInput (input : Input) : Except JsError (Option String) := do
  let output ← owOutput native input.prevOutput
  return owTxId input.prevTxId <|>
    check (input.prevIndex.isInteger && (JsNumber.ofNat 0).le input.prevIndex) "" <|>
    output <|> owInputAddressParams input.addressParams

variable {native}

/-! Both validators of outputs check the value. -/

theorem owCoin_of_owOutput {output : Output} (h : owOutput native output = .ok none) :
    owCoin output.value = none := by
  obtain ⟨failure, -, hnone⟩ := bind_eq_ok.mp h
  exact ((Option.orElse_eq_none _ _).mp (Except.ok.inj hnone)).2

theorem owCoin_of_owWithdrawUnbondedOutput {output : Output}
    (h : owWithdrawUnbondedOutput native output = .ok none) : owCoin output.value = none := by
  obtain ⟨failure, -, hnone⟩ := bind_eq_ok.mp h
  have hnone := Except.ok.inj hnone
  simp only [Option.orElse_eq_orElse, Option.orElse_eq_or, Option.or_eq_none_iff] at hnone
  exact hnone.2.1

/-- An accepted value goes to the native module as the numeral of a natural number. -/
theorem parseOutputForNative_value {output : Output} (h : owCoin output.value = none) :
    ∃ n, n ≤ maxCoin ∧ output.value = .ofNat n ∧
      (parseOutputForNative output).value = Nat.repr n := by
  obtain ⟨n, hn, hvalue⟩ := (owCoin_iff output.value).mp h
  refine ⟨n, hn, hvalue, ?_⟩
  rw [parseOutputForNative, hvalue, BigNumber.toString10_ofNat]

def owPrevOutputPointer (pointer : PrevOutputPointer) : Option String :=
  owTxId pointer.prevTxId <|> owUint16 pointer.prevIndex

/-- The index of an accepted pointer is a number of 16 bits. -/
theorem prevIndex_of_owPrevOutputPointer {pointer : PrevOutputPointer}
    (h : owPrevOutputPointer pointer = none) :
    ∃ n, n ≤ 65535 ∧ pointer.prevIndex = .ofNat n :=
  owUint_eq_none.mp ((Option.orElse_eq_none _ _).mp h).2

def owStakedStateOpWitness (buffer : Buffer) : Option String :=
  check (buffer.length == 66) "Expected signature to be 66 bytes long"

def defaultTendermintAddress : String := "ws://localhost:26657/websocket"

/-- The default of every optional network is Mainnet. -/
def initNetwork (network : Option NetworkConfig) : NetworkConfig := network.getD mainnet

theorem initNetwork_accepted {network : Option NetworkConfig}
    (h : owOptionalNetworkConfig network = true) : owNetworkConfig (initNetwork network) = true := by
  cases network with
  | none => exact mainnet_accepted
  | some config => exact h

end ThalerNodelib.Types
