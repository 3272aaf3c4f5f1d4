import ThalerNodelib.Js

/-!
Fee and network configurations and their validators. Each of the three
validators of a network checks the whole shape and one name; the chain id of a
configuration is any buffer, that of the Devnet options two hex characters.
-/
namespace ThalerNodelib.Network

open Js

inductive FeeAlgorithm
  | linearFee
  | other (name : String)
  deriving DecidableEq, Repr

def FeeAlgorithm.text : FeeAlgorithm → String
  | .linearFee => "LinearFee"
  | .other name => name

structure FeeConfig where
  algorithm : FeeAlgorithm
  constant : BigNumber
  coefficient : BigNumber
  deriving DecidableEq, Repr

def owLinearFeeMilli (value : BigNumber) : Bool := value.isGreaterThanOrEqualTo 0

def owFeeConfig (config : FeeConfig) : Bool :=
  config.algorithm == .linearFee && owLinearFeeMilli config.constant &&
    owLinearFeeMilli config.coefficient

structure NativeFeeConfig where
  algorithm : String
  constant : String
  coefficient : String
  deriving DecidableEq, Repr

def parseFeeConfigForNative (feeConfig : FeeConfig) : Except JsError NativeFeeConfig :=
  if feeConfig.algorithm = .linearFee then
    .ok {
      algorithm := feeConfig.algorithm.text
      constant := feeConfig.constant.toString10
      coefficient := feeConfig.coefficient.toString10 }
  else .error (.error s!"Unsupported fee algorithm: {feeConfig.algorithm.text}")

inductive NetworkEnum
  | mainnet
  | testnet
  | devnet
  deriving DecidableEq, Repr

def NetworkEnum.name : NetworkEnum → String
  | .mainnet => "Mainnet"
  | .testnet => "Testnet"
  | .devnet => "Devnet"

structure NetworkConfig where
  name : String
  chainHexId : Buffer
  addressPrefix : String
  bip44Path : String
  feeConfig : FeeConfig
  deriving DecidableEq, Repr

def owNetworkEnum (value : String) : Bool :=
  value == "Mainnet" || value == "Testnet" || value == "Devnet"

/-- The shape that the validators of the three networks share, with the name each asks for. -/
def owNamedNetwork (network : NetworkEnum) (config : NetworkConfig) : Bool :=
  owNetworkEnum config.name && owFeeConfig config.feeConfig && config.name == network.name

def owMainnet (config : NetworkConfig) : Bool := owNamedNetwork .mainnet config
def owTestnet (config : NetworkConfig) : Bool := owNamedNetwork .testnet config
def owDevnet (config : NetworkConfig) : Bool := owNamedNetwork .devnet config

def owNetworkConfig (config : NetworkConfig) : Bool :=
  owMainnet config || owTestnet config || owDevnet config

/-- An option that is left out is accepted. -/
def owOptionalNetworkConfig : Option NetworkConfig → Bool
  | none => true
  | some config => owNetworkConfig config

theorem owNetworkConfig_iff (config : NetworkConfig) :
    owNetworkConfig config = true ↔
      owFeeConfig config.feeConfig = true ∧ ∃ network : NetworkEnum, config.name = network.name := by
  simp only [owNetworkConfig, owMainnet, owTestnet, owDevnet, owNamedNetwork, owNetworkEnum,
    Bool.or_eq_true, Bool.and_eq_true, beq_iff_eq]
  constructor
  · intro h
    rcases h with (⟨⟨-, hfee⟩, hname⟩ | ⟨⟨-, hfee⟩, hname⟩) | ⟨⟨-, hfee⟩, hname⟩
    · exact ⟨hfee, .mainnet, hname⟩
    · exact ⟨hfee, .testnet, hname⟩
    · exact ⟨hfee, .devnet, hname⟩
  · intro h
    obtain ⟨hfee, network, hname⟩ := h
    cases network <;> simp [hname, hfee, NetworkEnum.name]

/-- An accepted network has the linear fee, the only algorithm there is. -/
theorem owNetworkConfig_linearFee {config : NetworkConfig} (h : owNetworkConfig config = true) :
    config.feeConfig.algorithm = .linearFee := by
  have hfee := ((owNetworkConfig_iff config).mp h).1
  simp only [owFeeConfig, Bool.and_eq_true, beq_iff_eq] at hfee
  exact hfee.1.1

def defaultFeeConfig : FeeConfig where
  algorithm := .linearFee
  constant := .finite (11 / 10)
  coefficient := .finite (5 / 4)

def mainnet : NetworkConfig where
  name := NetworkEnum.mainnet.name
  chainHexId := [0x2A]
  addressPrefix := "cro"
  bip44Path := "m/44'/394'/\x7bACCOUNT\x7d'/0/\x7bINDEX\x7d"
  feeConfig := defaultFeeConfig

def testnet : NetworkConfig where
  name := NetworkEnum.testnet.name
  chainHexId := [0x42]
  addressPrefix := "tcro"
  bip44Path := "m/44'/1'/\x7bACCOUNT\x7d'/0/\x7bINDEX\x7d"
  feeConfig := defaultFeeConfig

/-- The `chainHexId` of the Devnet options: `Buffer | string`. -/
inductive ChainHexId
  | buffer (bytes : Buffer)
  | text (digits : String)
  deriving DecidableEq, Repr

structure DevnetOptions where
  feeConfig : FeeConfig
  chainHexId : ChainHexId

/-- `/^[0-9a-fA-F]{2}$/`. -/
def twoHexCharacters (text : String) : Bool :=
  text.toList.length == 2 && text.toList.all isHexDigit

def owChainHexId : ChainHexId → Bool
  | .text digits => twoHexCharacters digits
  | .buffer bytes => twoHexCharacters (hexEncode bytes)

def owDevnetOptions (options : DevnetOptions) : Bool :=
  owFeeConfig options.feeConfig && owChainHexId options.chainHexId

def ChainHexId.bytes : ChainHexId → Buffer
  | .text digits => bufferFromHex digits
  | .buffer bytes => bytes

/-- `Devnet(options)`. -/
def devnet (options : DevnetOptions) : Except JsError NetworkConfig := do
  ow (check (owDevnetOptions options) "") "options"
  return {
    name := NetworkEnum.devnet.name
    addressPrefix := "dcro"
    bip44Path := "m/44'/1'/\x7bACCOUNT\x7d'/0/\x7bINDEX\x7d"
    feeConfig := options.feeConfig
    chainHexId := options.chainHexId.bytes }

/-- The library's own reading of a chain id, by its hex in capitals. -/
def fromChainId (chainHexId : Buffer) : NetworkEnum :=
  let text := String.ofList ((hexChars false chainHexId).map Char.toUpper)
  if text = "2A" then .mainnet else if text = "42" then .testnet else .devnet

theorem mainnet_accepted : owNetworkConfig mainnet = true := by decide +kernel

end ThalerNodelib.Network
