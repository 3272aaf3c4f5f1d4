import ThalerNodelib.AddressErrors

/-!
A network is identified twice: the library checks addresses against its name,
the native module decodes them on the network of its chain id. The validators
compare neither with the other.
-/
namespace ThalerNodelib.NetworkIdentification

open Js Native Network ThalerNodelib.Types Runs FunctionTypes NativeFromCrates ErrorTexts

/-- The native module accepts the chain id and derives the network of the name. -/
def Identified (config : NetworkConfig) : Prop :=
  ∃ chainHexId, chainHexIdFromVec config.chainHexId = .ok chainHexId ∧
    (networkFromChainHexId chainHexId).name = config.name

/-- The chain id is one byte, that of Mainnet or of Testnet under these names
and neither of them under the name Devnet. -/
def MatchingChainId (config : NetworkConfig) : Prop :=
  ∃ chainHexId, config.chainHexId = [chainHexId] ∧
    (config.name = "Mainnet" ∧ chainHexId = 0x2A ∨ config.name = "Testnet" ∧ chainHexId = 0x42 ∨
      config.name = "Devnet" ∧ chainHexId ≠ 0x2A ∧ chainHexId ≠ 0x42)

/-- `parse_output` decodes the address on the network of the chain id. -/
def AddressDecodes (crates : Crates) (config : NetworkConfig) (address : String) : Prop :=
  ∃ chainHexId decoded, chainHexIdFromVec config.chainHexId = .ok chainHexId ∧
    parseOutputAddress crates address (networkFromChainHexId chainHexId) = .ok decoded

variable (crates : Crates) (multiSig : MultiSigModule) (runtime : Runtime)

/-- Name and chain id name one network, and no call of a builder on it fails
because the native module does not read the address of an output. -/
structure NetworkAgrees (config : NetworkConfig) : Prop where
  identified : Identified config
  transfer : ∀ options s₀ log s, Transfer.TransferTransactionBuilder.new options = .ok s₀ →
    s₀.network = config →
    Run (Transfer.machine (nativeModule crates multiSig) runtime) s₀ log s →
    ∀ c e, outcome (Transfer.machine (nativeModule crates multiSig) runtime) s c = .error e →
      ¬ AddressFailure e
  withdrawUnbonded : ∀ options s₀ log s,
    WithdrawUnbonded.WithdrawUnbondedTransactionBuilder.new options = .ok s₀ →
    s₀.network = config →
    Run (WithdrawUnbonded.machine (nativeModule crates multiSig) runtime) s₀ log s →
    ∀ c e, outcome (WithdrawUnbonded.machine (nativeModule crates multiSig) runtime) s c =
      .error e → ¬ AddressFailure e

variable {crates multiSig runtime}

theorem networkFromChainHexId_name_iff (chainHexId : UInt8) (name : String) :
    (networkFromChainHexId chainHexId).name = name ↔
      name = "Mainnet" ∧ chainHexId = 0x2A ∨ name = "Testnet" ∧ chainHexId = 0x42 ∨
        name = "Devnet" ∧ chainHexId ≠ 0x2A ∧ chainHexId ≠ 0x42 := by
  unfold networkFromChainHexId mainnetChainHexId testnetChainHexId
  by_cases hmain : chainHexId = 0x2A
  · subst hmain
    simp [NetworkEnum.name, eq_comm]
  · by_cases htest : chainHexId = 0x42
    · subst htest
      simp [NetworkEnum.name, eq_comm]
    · simp [hmain, htest, NetworkEnum.name, eq_comm]

theorem identified_iff (config : NetworkConfig) : Identified config ↔ MatchingChainId config := by
  constructor
  · intro h
    obtain ⟨chainHexId, hvec, hname⟩ := h
    exact ⟨chainHexId, chainHexIdFromVec_eq_ok.mp hvec,
      (networkFromChainHexId_name_iff chainHexId config.name).mp hname⟩
  · intro h
    obtain ⟨chainHexId, hbytes, hmatch⟩ := h
    exact ⟨chainHexId, chainHexIdFromVec_eq_ok.mpr hbytes,
      (networkFromChainHexId_name_iff chainHexId config.name).mpr hmatch⟩

/-- Library and native module read a chain id of one byte alike. -/
theorem fromChainId_singleton (chainHexId : UInt8) :
    fromChainId [chainHexId] = networkFromChainHexId chainHexId := by
  have htext : String.ofList ((hexChars false [chainHexId]).map Char.toUpper) =
      hexEncodeUpper [chainHexId] := by
    rw [toUpper_hexChars]
    rfl
  have hmainnet : hexEncodeUpper [chainHexId] = "2A" ↔ chainHexId = mainnetChainHexId := by
    rw [show "2A" = hexEncodeUpper [mainnetChainHexId] from rfl, hexEncodeUpper_inj, List.cons.injEq]
    exact and_iff_left rfl
  have htestnet : hexEncodeUpper [chainHexId] = "42" ↔ chainHexId = testnetChainHexId := by
    rw [show "42" = hexEncodeUpper [testnetChainHexId] from rfl, hexEncodeUpper_inj, List.cons.injEq]
    exact and_iff_left rfl
  unfold fromChainId networkFromChainHexId
  simp only [htext, hmainnet, htestnet]

/-- On an identified network a valid address decodes. -/
theorem Identified.addressDecodes {config : NetworkConfig} (h : Identified config)
    {address : String}
    (hvalid : isTransferAddressValid crates address config.name = .ok true) :
    AddressDecodes crates config address := by
  obtain ⟨chainHexId, hvec, hname⟩ := h
  rw [← hname, isTransferAddressValid_name] at hvalid
  obtain ⟨decoded, hdecoded⟩ := (isOk_iff _).mp (Except.ok.inj hvalid)
  exact ⟨chainHexId, decoded, hvec, chainNeon_eq_ok.mpr hdecoded⟩

/-- An address that is valid on the named network and decodes on that of the
chain id shows that they are one, as no two networks share an address. -/
theorem identified_of_addressDecodes
    (hdisjoint : ∀ text network network' address address',
      crates.keys.fromCro text network = .ok address →
      crates.keys.fromCro text network' = .ok address' → network = network')
    {config : NetworkConfig} (haccepted : owNetworkConfig config = true) {address : String}
    (hvalid : isTransferAddressValid crates address config.name = .ok true)
    (hdecodes : AddressDecodes crates config address) : Identified config := by
  obtain ⟨chainHexId, decoded, hchain, hdecoded⟩ := hdecodes
  obtain ⟨-, network, hname⟩ := (owNetworkConfig_iff _).mp haccepted
  rw [hname, isTransferAddressValid_name] at hvalid
  obtain ⟨address', haddress'⟩ := (isOk_iff _).mp (Except.ok.inj hvalid)
  refine ⟨chainHexId, hchain, ?_⟩
  rw [hname, hdisjoint _ _ _ _ _ (chainNeon_eq_ok.mp hdecoded) haddress']

theorem AddressDecodes.parse {config : NetworkConfig} {address : String}
    (h : AddressDecodes crates config address) {chainHexId : UInt8}
    (hchain : chainHexIdFromVec config.chainHexId = .ok chainHexId) :
    ∃ decoded, parseOutputAddress crates address (networkFromChainHexId chainHexId) =
      .ok decoded := by
  obtain ⟨chainHexId', decoded, hchain', hdecoded⟩ := h
  obtain rfl := ok_unique hchain' hchain
  exact ⟨decoded, hdecoded⟩

/-- The addresses of a transfer builder were accepted on its network. -/
theorem transfer_addressDecodes {s₀ s : Transfer.Builder}
    {log : Log JsError Transfer.Builder (Transfer.Call (nativeModule crates multiSig)) Transfer.Value}
    (hs : Transfer.History (nativeModule crates multiSig) s₀ log s)
    (hidentified : Identified s.network) :
    (∀ input ∈ s.inputs, AddressDecodes crates s.network input.prevOutput.address) ∧
      ∀ output ∈ s.outputs, AddressDecodes crates s.network output.address :=
  ⟨fun input hinput => hidentified.addressDecodes (hs.inputs_accepted input hinput).2,
    fun output houtput => hidentified.addressDecodes (hs.outputs_accepted output houtput).2⟩

/-- On an identified network no build of a transfer fails at an address. -/
theorem avoids_buildIncompleteHex
    (hpanic : ∀ text, ¬ AddressFailure (.error (crates.neon.panic text)))
    {s₀ s : Transfer.Builder}
    {log : Log JsError Transfer.Builder (Transfer.Call (nativeModule crates multiSig)) Transfer.Value}
    (hs : Transfer.History (nativeModule crates multiSig) s₀ log s)
    (hidentified : Identified s.network) :
    Avoids addressMessage (s.buildIncompleteHex (nativeModule crates multiSig)) := by
  obtain ⟨hinputs, houtputs⟩ := transfer_addressDecodes hs hidentified
  rw [s.buildIncompleteHex_eq]
  apply avoids_buildIncompleteHexLinearFee hpanic
  intro native hnative chainHexId hchain
  rcases List.mem_append.mp hnative with hin | hout
  · obtain ⟨nativeInput, hnativeInput, rfl⟩ := List.mem_map.mp hin
    obtain ⟨input, hinput, rfl⟩ := List.mem_map.mp
      (show nativeInput ∈ s.inputs.map parseInputForNative from hnativeInput)
    exact (hinputs input hinput).parse hchain
  · obtain ⟨output, houtput, rfl⟩ := List.mem_map.mp hout
    exact (houtputs output houtput).parse hchain

/-- Name and chain id of a network agree, and builders on it never fail at an
accepted address, exactly when the chain id is one byte that matches the name. -/
theorem network_agrees_iff (hpanic : ∀ text, ¬ AddressFailure (.error (crates.neon.panic text)))
    (config : NetworkConfig) :
    NetworkAgrees crates multiSig runtime config ↔ MatchingChainId config := by
  constructor
  · intro h
    exact (identified_iff config).mp h.identified
  · intro h
    have hidentified := (identified_iff config).mpr h
    refine ⟨hidentified, ?_, ?_⟩
    · intro options s₀ log s hnew hnetwork run c
      have hs := (Transfer.History.start hnew).run run
      have hsame : s.network = config := hs.network.trans hnetwork
      rw [← hsame] at hidentified
      exact Transfer.avoids_call (avoids_buildIncompleteHex hpanic hs hidentified) c
    · intro options s₀ log s hnew hnetwork run c
      have hs := (WithdrawUnbonded.Replay.start hnew).run run
      have hsame : s.network = config := hs.network.trans hnetwork
      rw [← hsame] at hidentified
      apply WithdrawUnbonded.avoids_call
      apply avoids_buildRawWithdrawUnbondedTransaction
      intro native hnative chainHexId hchain
      obtain ⟨output, houtput, rfl⟩ := List.mem_map.mp hnative
      exact (hidentified.addressDecodes (hs.outputs_accepted output houtput).2).parse hchain

namespace Sample

/-- What `Devnet(...)` returns for the chain id of Mainnet. -/
def devnetConfig : NetworkConfig where
  name := "Devnet"
  chainHexId := [0x2A]
  addressPrefix := "dcro"
  bip44Path := "m/44'/1'/\x7bACCOUNT\x7d'/0/\x7bINDEX\x7d"
  feeConfig := defaultFeeConfig

def options : Option Transfer.TransferTransactionBuilderOptions := some ⟨some devnetConfig, none⟩

theorem options_accepted : Transfer.owTransferTransactionBuilderOptions options = none := by
  decide +kernel

def start : Transfer.Builder := .empty options options_accepted

/-- An address of Devnet. -/
def input : Input :=
  { Transfer.Sample.input 7 1 1 with
    prevOutput := ⟨"d" ++ Crates.Sample.transferAddress 7, .ofNat 5, none⟩ }

theorem new_options : Transfer.TransferTransactionBuilder.new options = .ok start :=
  Transfer.TransferTransactionBuilder.new_eq_ok.mpr ⟨options_accepted, rfl⟩

/-- The builder with the input. -/
def built : Log JsError Transfer.Builder (Transfer.Call Crates.Sample.module) Transfer.Value ×
    Transfer.Builder :=
  execute (Transfer.machine Crates.Sample.module Native.Sample.runtime) start [.addInput input]

theorem panic_text (text : String) :
    ¬ AddressFailure (.error (Crates.Sample.crates.neon.panic text)) := by
  have hapart : Apart "internal error in Neon module: " addressMessage := .of rfl rfl
  exact hapart.not_chained text

end Sample

/-- On Mainnet name and chain id agree. -/
theorem network_agrees_mainnet :
    NetworkAgrees Crates.Sample.crates Native.Sample.module.multiSig Native.Sample.runtime
      mainnet :=
  (network_agrees_iff Sample.panic_text mainnet).mpr ⟨0x2A, rfl, Or.inl ⟨rfl, rfl⟩⟩

/-- A Devnet with the chain id of Mainnet, which the library itself reads as
Mainnet: an input is accepted, and its address is not read when the transaction
is built. -/
theorem devnet_with_mainnet_chain_id :
    devnet ⟨defaultFeeConfig, .text "2A"⟩ = .ok Sample.devnetConfig ∧
    owNetworkConfig Sample.devnetConfig = true ∧
    chainHexIdFromVec Sample.devnetConfig.chainHexId = .ok 0x2A ∧
    networkFromChainHexId 0x2A = .mainnet ∧
    fromChainId Sample.devnetConfig.chainHexId = .mainnet ∧
    Sample.built.2.inputs = [Sample.input] ∧
    outcome (Transfer.machine Crates.Sample.module Native.Sample.runtime) Sample.built.2
      (.query .txId) =
      .error (.error "Unable to deserialize output address to CRO address: invalid prefix") ∧
    ¬ NetworkAgrees Crates.Sample.crates Native.Sample.module.multiSig Native.Sample.runtime
      Sample.devnetConfig := by
  have hfails : outcome (Transfer.machine Crates.Sample.module Native.Sample.runtime)
      Sample.built.2 (.query .txId) =
      .error (.error "Unable to deserialize output address to CRO address: invalid prefix") := by
    decide +kernel
  refine ⟨by decide +kernel, by decide +kernel, by decide +kernel, by decide +kernel,
    fromChainId_singleton 0x2A, by decide +kernel, hfails, ?_⟩
  intro h
  exact h.transfer _ _ _ _ Sample.new_options rfl (run_execute _ _ _) _ _ hfails
    ⟨"invalid prefix", rfl⟩

end ThalerNodelib.NetworkIdentification
