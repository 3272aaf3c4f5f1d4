import ThalerNodelib.DepositExport
import ThalerNodelib.WithdrawUnbondedExport

/-!
What the validators of the library accept against what the parsers of the
native module make of it: the pointers to spent outputs, the outputs and the
account nonces. Indexes and lock times cross the border as floats and are cast
to integers there, amounts and nonces as decimal numerals.
-/
namespace ThalerNodelib.Marshalling

open Js Native Network ThalerNodelib.Types Runs Crates FunctionTypes NativeTransfer NativeFromCrates
  NetworkIdentification

variable {crates : Crates} {multiSig : MultiSigModule} {runtime : Runtime}
  {coinValue : crates.types.Coin → ℕ}

/-! Pointers. -/

/-- The pointer has the bytes of the id and the number of the index. -/
def Points (pointer : TxoPointer) (prevTxId : String) (prevIndex : JsNumber) : Prop :=
  pointer.id.val = bufferFromHex prevTxId ∧ prevIndex = .ofNat pointer.index.toNat

/-- On the network the input is parsed to one that spends the pointer. -/
def Spends (crates : Crates) (network : NetworkConfig) (input : Input) (pointer : TxoPointer) :
    Prop :=
  ∃ chainHexId parsed, chainHexIdFromVec network.chainHexId = .ok chainHexId ∧
    parseInput crates (parseInputForNative input) (networkFromChainHexId chainHexId) = .ok parsed ∧
    parsed.prevOutput.1 = pointer

def FaithfulInput (crates : Crates) (network : NetworkConfig) (input : Input) : Prop :=
  ∃ pointer, Spends crates network input pointer ∧ Points pointer input.prevTxId input.prevIndex

def FaithfulPointer (pointer : PrevOutputPointer) : Prop :=
  ∃ parsed, parsePrevOutputPointer pointer = .ok parsed ∧
    Points parsed pointer.prevTxId pointer.prevIndex

/-- A pointer names one output. -/
theorem Points.unique {pointer : TxoPointer} {prevTxId prevTxId' : String}
    {prevIndex prevIndex' : JsNumber} (h : Points pointer prevTxId prevIndex)
    (h' : Points pointer prevTxId' prevIndex') :
    bufferFromHex prevTxId = bufferFromHex prevTxId' ∧ prevIndex = prevIndex' :=
  ⟨h.1.symm.trans h'.1, h.2.trans h'.2.symm⟩

/-- A cast index is the one that was given if that is an integer in range. -/
theorem castU16_ofNat_iff {x : JsNumber} {n : ℕ} (h : x = .ofNat n) :
    x = .ofNat (castU16 x).toNat ↔ n ≤ 65535 := by
  subst h
  rw [JsNumber.ofNat_inj, eq_comm, castU16_eq_iff]

/-- A parsed pointer names what the accepted one did. -/
theorem points_of_parsePrevOutputPointer {pointer : PrevOutputPointer} {parsed : TxoPointer}
    (haccepted : owPrevOutputPointer pointer = none)
    (h : parsePrevOutputPointer pointer = .ok parsed) :
    Points parsed pointer.prevTxId pointer.prevIndex := by
  obtain ⟨n, hn, hindex⟩ := prevIndex_of_owPrevOutputPointer haccepted
  obtain ⟨id, hid, h⟩ := bind_eq_ok.mp h
  obtain rfl := Except.ok.inj h
  exact ⟨txidFromStr_bytes hid, (castU16_ofNat_iff hindex).mpr hn⟩

theorem parsePrevOutputPointer_faithful {pointer : PrevOutputPointer}
    (h : owPrevOutputPointer pointer = none) : FaithfulPointer pointer := by
  obtain ⟨id, hid⟩ := txidFromStr_ok ((Option.orElse_eq_none _ _).mp h).1
  have hparsed : parsePrevOutputPointer pointer = .ok ⟨id, castU16 pointer.prevIndex⟩ :=
    bind_eq_ok.mpr ⟨id, hid, rfl⟩
  exact ⟨_, hparsed, points_of_parsePrevOutputPointer h hparsed⟩

/-! Outputs. -/

/-- What the output is parsed to on the network. -/
def ParsesTo (crates : Crates) (network : NetworkConfig) (output : Output)
    (txOut : TxOut crates.types) : Prop :=
  ∃ chainHexId, chainHexIdFromVec network.chainHexId = .ok chainHexId ∧
    parseOutput crates (parseOutputForNative output) (networkFromChainHexId chainHexId) = .ok txOut

/-- The value and the lock time are those of the output, as numbers. -/
def Pays (coinValue : crates.types.Coin → ℕ) (txOut : TxOut crates.types) (output : Output) : Prop :=
  output.value = .ofNat (coinValue txOut.value) ∧
    txOut.validFrom.map UInt64.toNat = output.validFrom.map Timespec.seconds

/-- On the network the output is parsed to its own address, value and lock time. -/
def FaithfulOutput (crates : Crates) (coinValue : crates.types.Coin → ℕ) (network : NetworkConfig)
    (output : Output) : Prop :=
  ∃ txOut, ParsesTo crates network output txOut ∧
    (∃ named : NetworkEnum, named.name = network.name ∧
      crates.keys.fromCro output.address named = .ok txOut.address) ∧
    Pays coinValue txOut output

theorem Timespec.seconds_injective : Function.Injective Timespec.seconds := by
  intro time time' h
  obtain ⟨seconds, _⟩ := time
  obtain ⟨seconds', _⟩ := time'
  subst h
  rfl

/-- What is paid determines the value and the lock time. -/
theorem Pays.unique {txOut : TxOut crates.types} {output output' : Output}
    (h : Pays coinValue txOut output) (h' : Pays coinValue txOut output') :
    output.value = output'.value ∧ output.validFrom = output'.validFrom :=
  ⟨h.1.trans h'.1.symm,
    Option.map_injective Timespec.seconds_injective (h.2.symm.trans h'.2)⟩

/-- What an output with an accepted value and a decoded address is parsed to. -/
theorem parseOutput_eq (laws : MarshalLaws crates coinValue) {output : Output}
    (hcoin : owCoin output.value = none) {network : NetworkEnum}
    {address : crates.types.ExtendedAddr}
    (haddress : crates.keys.fromCro output.address network = .ok address) :
    ∃ value, parseOutput crates (parseOutputForNative output) network = .ok {
        address := address, value := value
        validFrom := output.validFrom.map fun time => castU64 time.toNumber } ∧
      output.value = .ofNat (coinValue value) := by
  obtain ⟨n, hn, hvalue, hnumeral⟩ := parseOutputForNative_value hcoin
  obtain ⟨coin, hcoin, hread⟩ := laws.coinFromStr n hn
  rw [← hnumeral] at hcoin
  refine ⟨coin, parseOutput_eq_ok.mpr ⟨haddress, hcoin, ?_⟩, by rw [hvalue, hread]⟩
  rw [parseOutputForNative, Option.map_map]
  rfl

/-- Of the lock time only what the cast leaves of it is parsed. -/
theorem ParsesTo.of_cast {network : NetworkConfig} {output : Output} {time time' : Timespec}
    {txOut : TxOut crates.types} (h : castU64 time.toNumber = castU64 time'.toNumber)
    (hparses : ParsesTo crates network { output with validFrom := some time } txOut) :
    ParsesTo crates network { output with validFrom := some time' } txOut := by
  obtain ⟨chainHexId, hchain, hparsed⟩ := hparses
  simp only [parseOutput, parseOutputForNative, Option.map_some, h] at hparsed
  exact ⟨chainHexId, hchain, hparsed⟩

/-- Lock times survive the cast when they fit 64 bits. -/
theorem validFrom_cast_iff (validFrom : Option Timespec) :
    (validFrom.map fun time => castU64 time.toNumber).map UInt64.toNat =
        validFrom.map Timespec.seconds ↔
      ∀ time, validFrom = some time → time.seconds < 2 ^ 64 := by
  cases validFrom with
  | none => simp
  | some time =>
    simp only [Option.map_some, Option.some.injEq, forall_eq']
    exact castU64_eq_iff time.seconds

/-- What an accepted output is parsed to pays its value, and its lock time if that fits. -/
theorem ParsesTo.pays_iff (laws : MarshalLaws crates coinValue) {network : NetworkConfig}
    {output : Output} {txOut : TxOut crates.types} (h : ParsesTo crates network output txOut)
    (hcoin : owCoin output.value = none) :
    Pays coinValue txOut output ↔
      ∀ time, output.validFrom = some time → time.seconds < 2 ^ 64 := by
  obtain ⟨chainHexId, -, hparsed⟩ := h
  obtain ⟨haddress, -, -⟩ := parseOutput_eq_ok.mp hparsed
  obtain ⟨value, hparsed', hvalue⟩ := parseOutput_eq laws hcoin haddress
  rw [← ok_unique hparsed' hparsed, ← validFrom_cast_iff]
  exact ⟨fun hpays => hpays.2, fun hvalidFrom => ⟨hvalue, hvalidFrom⟩⟩

theorem parseOutput_faithful_iff (laws : MarshalLaws crates coinValue) {network : NetworkConfig}
    (hidentified : Identified network) {output : Output} (hcoin : owCoin output.value = none) :
    FaithfulOutput crates coinValue network output ↔
      isTransferAddressValid crates output.address network.name = .ok true ∧
        ∀ time, output.validFrom = some time → time.seconds < 2 ^ 64 := by
  constructor
  · intro h
    obtain ⟨txOut, hparses, ⟨named, hnamed, haddress⟩, hpays⟩ := h
    refine ⟨?_, (hparses.pays_iff laws hcoin).mp hpays⟩
    rw [← hnamed, isTransferAddressValid_name, haddress]
    rfl
  · intro h
    obtain ⟨hvalid, hseconds⟩ := h
    obtain ⟨chainHexId, hchain, hname⟩ := hidentified
    rw [← hname, isTransferAddressValid_name] at hvalid
    obtain ⟨address, haddress⟩ := (isOk_iff _).mp (Except.ok.inj hvalid)
    obtain ⟨value, hparsed, -⟩ := parseOutput_eq laws hcoin haddress
    have hparses := (show ParsesTo crates network output _ from ⟨chainHexId, hchain, hparsed⟩)
    exact ⟨_, hparses, ⟨_, hname, haddress⟩, (hparses.pays_iff laws hcoin).mpr hseconds⟩

/-- The two validators of outputs. -/
def AcceptedOutput (native : NativeModule) (output : Output) : Prop :=
  owOutput native output = .ok none ∨ owWithdrawUnbondedOutput native output = .ok none

theorem AcceptedOutput.owCoin {native : NativeModule} {output : Output}
    (h : AcceptedOutput native output) : Types.owCoin output.value = none := by
  rcases h with h | h
  · exact owCoin_of_owOutput h
  · exact owCoin_of_owWithdrawUnbondedOutput h

/-- When an accepted output pays what it names on a network with its own chain id. -/
structure OutputConditions (crates : Crates) (multiSig : MultiSigModule)
    (coinValue : crates.types.Coin → ℕ) : Prop where
  faithful : ∀ network output, MatchingChainId network →
    AcceptedOutput (nativeModule crates multiSig) output →
    (FaithfulOutput crates coinValue network output ↔
      isTransferAddressValid crates output.address network.name = .ok true ∧
        ∀ time, output.validFrom = some time → time.seconds < 2 ^ 64)
  /-- Under the condition only outputs of one value and lock time become one. -/
  distinct : ∀ network network' output output' txOut,
    AcceptedOutput (nativeModule crates multiSig) output →
    AcceptedOutput (nativeModule crates multiSig) output' →
    (∀ time, output.validFrom = some time → time.seconds < 2 ^ 64) →
    (∀ time, output'.validFrom = some time → time.seconds < 2 ^ 64) →
    ParsesTo crates network output txOut → ParsesTo crates network' output' txOut →
    output.value = output'.value ∧ output.validFrom = output'.validFrom

/-- On a network with its own chain id an accepted output is parsed to itself exactly when
its address is one of the network and its lock time, if any, is below 2^64. -/
theorem outputs_marshalled_iff (laws : MarshalLaws crates coinValue) :
    OutputConditions crates multiSig coinValue where
  faithful _ _ hmatching haccepted :=
    parseOutput_faithful_iff laws ((identified_iff _).mpr hmatching) haccepted.owCoin
  distinct _ _ _ _ _ haccepted haccepted' hseconds hseconds' hparses hparses' :=
    ((hparses.pays_iff laws haccepted.owCoin).mpr hseconds).unique
      ((hparses'.pays_iff laws haccepted'.owCoin).mpr hseconds')

/-! Inputs. -/

theorem parts_of_owInput {native : NativeModule} {input : Input}
    (h : owInput native input = .ok none) :
    owTxId input.prevTxId = none ∧ (∃ n, input.prevIndex = .ofNat n) ∧
      owCoin input.prevOutput.value = none := by
  obtain ⟨failure, houtput, hnone⟩ := bind_eq_ok.mp h
  have hnone := Except.ok.inj hnone
  simp only [Option.orElse_eq_orElse, Option.orElse_eq_or, Option.or_eq_none_iff] at hnone
  obtain ⟨hid, hindex, hfailure, -⟩ := hnone
  rw [check_eq_none, Bool.and_eq_true] at hindex
  subst hfailure
  exact ⟨hid, JsNumber.eq_ofNat_of_integer hindex.1 hindex.2, owCoin_of_owOutput houtput⟩

/-- On an identified network an accepted input is parsed, its index cast. -/
theorem spends_of_accepted (laws : MarshalLaws crates coinValue) {network : NetworkConfig}
    (hidentified : Identified network) {native : NativeModule} {input : Input}
    (haccepted : owInput native input = .ok none)
    (hvalid : isTransferAddressValid crates input.prevOutput.address network.name = .ok true) :
    ∃ id, txidFromStr input.prevTxId = .ok id ∧
      Spends crates network input ⟨id, castU16 input.prevIndex⟩ := by
  obtain ⟨hid, -, hcoin⟩ := parts_of_owInput haccepted
  obtain ⟨chainHexId, address, hchain, haddress⟩ := hidentified.addressDecodes hvalid
  obtain ⟨value, houtput, -⟩ := parseOutput_eq laws hcoin (chainNeon_eq_ok.mp haddress)
  obtain ⟨id, hid⟩ := txidFromStr_ok hid
  exact ⟨id, hid, chainHexId, _, hchain,
    bind_eq_ok.mpr ⟨id, hid, bind_eq_ok.mpr ⟨_, houtput, rfl⟩⟩, rfl⟩

/-- An accepted input is parsed to the pointer that it spends exactly when its
index fits and its network is identified. -/
theorem parseInput_faithful_iff (laws : MarshalLaws crates coinValue) {network : NetworkConfig}
    (hnetwork : owNetworkConfig network = true) {native : NativeModule} {input : Input}
    (haccepted : owInput native input = .ok none)
    (hvalid : isTransferAddressValid crates input.prevOutput.address network.name = .ok true) :
    FaithfulInput crates network input ↔
      input.prevIndex.le (.ofNat 65535) = true ∧ Identified network := by
  obtain ⟨-, ⟨n, hn⟩, -⟩ := parts_of_owInput haccepted
  have hfits : input.prevIndex.le (.ofNat 65535) = true ↔ n ≤ 65535 := by
    rw [hn, JsNumber.ofNat_le_ofNat, decide_eq_true_iff]
  rw [hfits]
  constructor
  · intro h
    obtain ⟨pointer, ⟨chainHexId, parsed, hchain, hparsed, rfl⟩, -, hindex⟩ := h
    obtain ⟨id, -, hparsed⟩ := bind_eq_ok.mp hparsed
    obtain ⟨txOut, houtput, hparsed⟩ := bind_eq_ok.mp hparsed
    obtain ⟨haddress, -, -⟩ := parseOutput_eq_ok.mp houtput
    rw [← Except.ok.inj hparsed] at hindex
    exact ⟨(castU16_ofNat_iff hn).mp hindex, identified_of_addressDecodes laws.fromCro_network
      hnetwork hvalid ⟨chainHexId, txOut.address, hchain, chainNeon_eq_ok.mpr haddress⟩⟩
  · intro h
    obtain ⟨hle, hidentified⟩ := h
    obtain ⟨id, hid, hspends⟩ := spends_of_accepted laws hidentified haccepted hvalid
    exact ⟨_, hspends, txidFromStr_bytes hid, (castU16_ofNat_iff hn).mpr hle⟩

/-- What an input with an index that fits spends is what it names. -/
theorem Spends.points {network : NetworkConfig} {native : NativeModule} {input : Input}
    {pointer : TxoPointer} (h : Spends crates network input pointer)
    (haccepted : owInput native input = .ok none)
    (hfits : input.prevIndex.le (.ofNat 65535) = true) :
    Points pointer input.prevTxId input.prevIndex := by
  obtain ⟨-, ⟨n, hn⟩, -⟩ := parts_of_owInput haccepted
  rw [hn, JsNumber.ofNat_le_ofNat, decide_eq_true_iff] at hfits
  obtain ⟨chainHexId, parsed, -, hparsed, rfl⟩ := h
  obtain ⟨id, hid, hparsed⟩ := bind_eq_ok.mp hparsed
  obtain ⟨txOut, -, hparsed⟩ := bind_eq_ok.mp hparsed
  rw [← Except.ok.inj hparsed]
  exact ⟨txidFromStr_bytes hid, (castU16_ofNat_iff hn).mpr hfits⟩

/-- When what is accepted by the two builders points to what it names. -/
structure OutpointConditions (crates : Crates) (multiSig : MultiSigModule) (runtime : Runtime) :
    Prop where
  transfer : ∀ s input v,
    outcome (Transfer.machine (nativeModule crates multiSig) runtime) s (.addInput input) = .ok v →
    (FaithfulInput crates s.network input ↔
      input.prevIndex.le (.ofNat 65535) = true ∧ MatchingChainId s.network)
  deposit : ∀ s pointer v,
    outcome (Deposit.machine (nativeModule crates multiSig) runtime) s (.addInput pointer) =
      .ok v →
    FaithfulPointer pointer
  /-- Only what names one output becomes one pointer, of inputs with an index that fits. -/
  transferDistinct : ∀ s s' input input' v v' pointer,
    outcome (Transfer.machine (nativeModule crates multiSig) runtime) s (.addInput input) = .ok v →
    outcome (Transfer.machine (nativeModule crates multiSig) runtime) s' (.addInput input') =
      .ok v' →
    input.prevIndex.le (.ofNat 65535) = true → input'.prevIndex.le (.ofNat 65535) = true →
    Spends crates s.network input pointer → Spends crates s'.network input' pointer →
    bufferFromHex input.prevTxId = bufferFromHex input'.prevTxId ∧
      input.prevIndex = input'.prevIndex
  depositDistinct : ∀ s s' pointer pointer' v v' parsed,
    outcome (Deposit.machine (nativeModule crates multiSig) runtime) s (.addInput pointer) =
      .ok v →
    outcome (Deposit.machine (nativeModule crates multiSig) runtime) s' (.addInput pointer') =
      .ok v' →
    parsePrevOutputPointer pointer = .ok parsed → parsePrevOutputPointer pointer' = .ok parsed →
    bufferFromHex pointer.prevTxId = bufferFromHex pointer'.prevTxId ∧
      pointer.prevIndex = pointer'.prevIndex

theorem accepted_input {s : Transfer.Builder} {input : Input} {v : Transfer.Value}
    (h : outcome (Transfer.machine (nativeModule crates multiSig) runtime) s (.addInput input) =
      .ok v) :
    owInput (nativeModule crates multiSig) input = .ok none ∧
      s.isTransferAddressInNetwork (nativeModule crates multiSig) input.prevOutput.address =
        .ok true := by
  have hstep := Transfer.step_of_outcome h
  generalize next (Transfer.machine (nativeModule crates multiSig) runtime) s (.addInput input) = t
    at hstep
  cases hstep with
  | addInput _ haccepted hnet => exact ⟨haccepted, hnet⟩
  | kept hno => cases (hno v rfl).1

theorem accepted_pointer {native : NativeModule} {s : Deposit.Builder native}
    {pointer : PrevOutputPointer} {v : Deposit.Value}
    (h : outcome (Deposit.machine native runtime) s (.addInput pointer) = .ok v) :
    owPrevOutputPointer pointer = none := by
  cases how : owPrevOutputPointer pointer with
  | none => rfl
  | some message =>
    simp only [outcome, Deposit.machine, Deposit.addInput, how, ow, EStateM.run_bind, run_call] at h
    cases h

/-- An accepted input of a transfer is spent as it is named exactly when its index
is at most 65535 and its network has its own chain id; one of a deposit always is. -/
theorem outpoints_marshalled_iff (laws : MarshalLaws crates coinValue) :
    OutpointConditions crates multiSig runtime where
  transfer s input v h := by
    rw [← identified_iff]
    exact parseInput_faithful_iff laws s.network_accepted (accepted_input h).1 (accepted_input h).2
  deposit s pointer v h := parsePrevOutputPointer_faithful (accepted_pointer h)
  transferDistinct s s' input input' v v' pointer h h' hfits hfits' hspends hspends' :=
    (hspends.points (accepted_input h).1 hfits).unique
      (hspends'.points (accepted_input h').1 hfits')
  depositDistinct s s' pointer pointer' v v' parsed h h' hparsed hparsed' :=
    (points_of_parsePrevOutputPointer (accepted_pointer h) hparsed).unique
      (points_of_parsePrevOutputPointer (accepted_pointer h') hparsed')

namespace Sample

def input (prevIndex : ℕ) : Input :=
  { Transfer.Sample.input 7 1 1 with prevIndex := .ofNat prevIndex }

def pointer (prevIndex : ℕ) : PrevOutputPointer :=
  ⟨hexEncode (Crates.Sample.privateKey 7), .ofNat prevIndex⟩

def output (time : Timespec) : Output := { Transfer.Sample.output with validFrom := some time }

/-- The greatest double below 2^64. -/
def last : Timespec := ⟨2 ^ 64 - 2048, by decide⟩

def late : Timespec := ⟨2 ^ 64, by decide⟩

def later : Timespec := ⟨2 ^ 65, by decide⟩

theorem matchingChainId : MatchingChainId Transfer.Sample.start.network :=
  ⟨0x2A, rfl, Or.inl ⟨rfl, rfl⟩⟩

end Sample

/-- The greatest index comes out as it went in. -/
theorem outpoints_marshalled_in_range :
    FaithfulInput Crates.Sample.crates Transfer.Sample.start.network (Sample.input 65535) ∧
      FaithfulPointer (Sample.pointer 65535) := by
  have hconditions : OutpointConditions Crates.Sample.crates Native.Sample.module.multiSig
      Native.Sample.runtime := outpoints_marshalled_iff Crates.Sample.marshal_laws
  exact ⟨(hconditions.transfer Transfer.Sample.start _ .this (by decide +kernel)).mpr
      ⟨by decide +kernel, Sample.matchingChainId⟩,
    hconditions.deposit Deposit.Sample.cratesStart _ .this (by decide +kernel)⟩

/-- An index above the range is spent as the greatest in it. -/
theorem indexes_saturate :
    outcome (Transfer.machine Crates.Sample.module Native.Sample.runtime) Transfer.Sample.start
      (.addInput (Sample.input 65535)) = .ok .this ∧
    outcome (Transfer.machine Crates.Sample.module Native.Sample.runtime) Transfer.Sample.start
      (.addInput (Sample.input 65536)) = .ok .this ∧
    (∃ pointer,
      Spends Crates.Sample.crates Transfer.Sample.start.network (Sample.input 65535) pointer ∧
      Spends Crates.Sample.crates Transfer.Sample.start.network (Sample.input 65536) pointer) ∧
    ¬ FaithfulInput Crates.Sample.crates Transfer.Sample.start.network (Sample.input 65536) := by
  have hlast : outcome (Transfer.machine Crates.Sample.module Native.Sample.runtime)
      Transfer.Sample.start (.addInput (Sample.input 65535)) = .ok .this := by decide +kernel
  have habove : outcome (Transfer.machine Crates.Sample.module Native.Sample.runtime)
      Transfer.Sample.start (.addInput (Sample.input 65536)) = .ok .this := by decide +kernel
  have hidentified := (identified_iff _).mpr Sample.matchingChainId
  have hfirst := accepted_input hlast
  have hsecond := accepted_input habove
  obtain ⟨id, hid, hspends⟩ :=
    spends_of_accepted Crates.Sample.marshal_laws hidentified hfirst.1 hfirst.2
  obtain ⟨id', hid', hspends'⟩ :=
    spends_of_accepted Crates.Sample.marshal_laws hidentified hsecond.1 hsecond.2
  obtain rfl : id' = id := ok_unique hid' hid
  refine ⟨hlast, habove, ⟨_, hspends, hspends'⟩, ?_⟩
  intro h
  have hfits := ((parseInput_faithful_iff Crates.Sample.marshal_laws
    Transfer.Sample.start.network_accepted hsecond.1 hsecond.2).mp h).1
  revert hfits
  decide +kernel

/-- An output with the last lock time of 64 bits pays what it names. -/
theorem outputs_marshalled_in_range :
    FaithfulOutput Crates.Sample.crates UInt64.toNat Transfer.Sample.start.network
      (Sample.output Sample.last) := by
  have hconditions : OutputConditions Crates.Sample.crates Native.Sample.module.multiSig
      UInt64.toNat := outputs_marshalled_iff Crates.Sample.marshal_laws
  apply (hconditions.faithful _ _ Sample.matchingChainId (Or.inl (by decide +kernel))).mpr
  refine ⟨by decide +kernel, ?_⟩
  intro time htime
  obtain rfl := Option.some.inj htime
  decide

/-- Two lock times past 64 bits become one. -/
theorem lock_times_saturate :
    (Timespec.fromSeconds (.ofNat (2 ^ 64)) = .ok Sample.late ∧
      Timespec.fromSeconds (.ofNat (2 ^ 65)) = .ok Sample.later) ∧
    (∀ time ∈ [Sample.late, Sample.later],
      owOutput Crates.Sample.module (Sample.output time) = .ok none ∧
      owWithdrawUnbondedOutput Crates.Sample.module (Sample.output time) = .ok none) ∧
    (∃ txOut,
      ParsesTo Crates.Sample.crates Transfer.Sample.start.network (Sample.output Sample.late) txOut ∧
      ParsesTo Crates.Sample.crates Transfer.Sample.start.network (Sample.output Sample.later)
        txOut) ∧
    ¬ FaithfulOutput Crates.Sample.crates UInt64.toNat Transfer.Sample.start.network
      (Sample.output Sample.late) := by
  have hidentified := (identified_iff _).mpr Sample.matchingChainId
  have hcoin : owCoin (Sample.output Sample.late).value = none := by decide +kernel
  have hvalid : isTransferAddressValid Crates.Sample.crates
      (Sample.output Sample.late).address Transfer.Sample.start.network.name = .ok true := by
    decide +kernel
  obtain ⟨chainHexId, address, hchain, hdecoded⟩ := hidentified.addressDecodes hvalid
  obtain ⟨value, hparsed, -⟩ :=
    parseOutput_eq Crates.Sample.marshal_laws hcoin (chainNeon_eq_ok.mp hdecoded)
  refine ⟨⟨by decide +kernel, by decide +kernel⟩, by decide +kernel,
    ⟨_, ⟨chainHexId, hchain, hparsed⟩,
      ParsesTo.of_cast (by decide +kernel) ⟨chainHexId, hchain, hparsed⟩⟩, ?_⟩
  intro h
  have hseconds := ((parseOutput_faithful_iff Crates.Sample.marshal_laws hidentified hcoin).mp h).2
  exact absurd (hseconds _ rfl) (by decide)

/-! Nonces. -/

/-- The nonce is read as itself. -/
def FaithfulNonce (nonce : BigNumber) : Prop :=
  ∃ parsed, parseAccountNonce nonce.toString10 = .ok parsed ∧ nonce = .ofNat parsed.toNat

/-- The raw transaction is not built because the nonce is not read. -/
def NonceRefused (native : NativeModule) (s : WithdrawUnbonded.Builder) : Prop :=
  ∃ e, parseAccountNonce s.nonce.toString10 = .error e ∧
    (WithdrawUnbonded.prepareRawTx native).run s = .error e s

theorem parseAccountNonce_faithful_iff {nonce : BigNumber} (h : owAccountNonce nonce = none) :
    FaithfulNonce nonce ↔ nonce ≠ .ofNat (2 ^ 64) := by
  obtain ⟨n, hle, rfl⟩ := (owAccountNonce_iff nonce).mp h
  rw [bigNumberU64Max] at hle
  constructor
  · intro hfaithful hmax
    obtain ⟨parsed, -, hparsed⟩ := hfaithful
    have hlt := parsed.toNat_lt
    rw [← BigNumber.ofNat_inj.mp (hmax.symm.trans hparsed)] at hlt
    exact lt_irrefl _ hlt
  · intro hmax
    have hlt : n < 2 ^ 64 := lt_of_le_of_ne hle fun hn => hmax (congrArg BigNumber.ofNat hn)
    have hparsed : BigNumber.ofNat n = .ofNat (UInt64.ofNat n).toNat := by
      rw [UInt64.toNat_ofNat_of_lt' hlt]
    exact ⟨_, (parseAccountNonce_eq_ok (BigNumber.isInteger_ofNat n)).mpr hparsed, hparsed⟩

/-- The nonce is the first that is read. -/
theorem prepareRawTx_nonce {s : WithdrawUnbonded.Builder} {e : JsError}
    (h : parseAccountNonce s.nonce.toString10 = .error e) :
    (WithdrawUnbonded.prepareRawTx (nativeModule crates multiSig)).run s = .error e s := by
  have hbuild : (nativeModule crates multiSig).stakingTransaction.buildRawWithdrawUnbondedTransaction
      s.rawTxOptions = .error e := by
    show (parseAccountNonce s.nonce.toString10 >>= _) = _
    rw [h]
    rfl
  simp only [WithdrawUnbonded.prepareRawTx, EStateM.run_bind, EStateM.run_get, run_call, hbuild]

/-- A nonce of a withdrawal is refused by the native module when it is 2^64. -/
theorem nonceRefused_iff (s : WithdrawUnbonded.Builder) :
    NonceRefused (nativeModule crates multiSig) s ↔ s.nonce = .ofNat (2 ^ 64) := by
  have hfaithful := parseAccountNonce_faithful_iff s.nonce_accepted
  constructor
  · intro h
    obtain ⟨e, he, -⟩ := h
    by_contra hmax
    obtain ⟨parsed, hparsed, -⟩ := hfaithful.mpr hmax
    cases he.symm.trans hparsed
  · intro h
    cases hparsed : parseAccountNonce s.nonce.toString10 with
    | error e => exact ⟨e, hparsed, prepareRawTx_nonce hparsed⟩
    | ok parsed =>
      have hint : s.nonce.isInteger = true := by
        rw [h]
        exact BigNumber.isInteger_ofNat _
      exact absurd h (hfaithful.mp ⟨parsed, hparsed, (parseAccountNonce_eq_ok hint).mp hparsed⟩)

/-- When an accepted nonce can be encoded. -/
structure NonceConditions (crates : Crates) (multiSig : MultiSigModule) (runtime : Runtime) :
    Prop where
  encodes : ∀ nonce, owAccountNonce nonce = none →
    (FaithfulNonce nonce ↔ nonce ≠ .ofNat (2 ^ 64))
  prepares : ∀ options s₀ log s,
    WithdrawUnbonded.WithdrawUnbondedTransactionBuilder.new options = .ok s₀ →
    Run (WithdrawUnbonded.machine (nativeModule crates multiSig) runtime) s₀ log s →
    (¬ NonceRefused (nativeModule crates multiSig) s ↔ options.nonce ≠ .ofNat (2 ^ 64))

/-- An accepted nonce is encoded, and never stops a withdrawal from being
prepared, exactly when it is not 2^64. -/
theorem nonces_encoded_iff : NonceConditions crates multiSig runtime where
  encodes _ h := parseAccountNonce_faithful_iff h
  prepares options s₀ log s hnew run := by
    have hnonce := ((WithdrawUnbonded.Replay.start hnew).run run).nonce
    obtain ⟨_, rfl⟩ := WithdrawUnbonded.WithdrawUnbondedTransactionBuilder.new_eq_ok.mp hnew
    rw [nonceRefused_iff, hnonce]
    rfl

namespace Sample

def withdrawOptions : WithdrawUnbonded.WithdrawUnbondedTransactionBuilderOptions :=
  ⟨.ofNat (2 ^ 64), none⟩

theorem withdrawOptions_accepted :
    WithdrawUnbonded.owWithdrawUnbondedTransactionBuilderOptions withdrawOptions = none := by
  decide +kernel

def withdraw : Log JsError WithdrawUnbonded.Builder (WithdrawUnbonded.Call Crates.Sample.module)
    WithdrawUnbonded.Value × WithdrawUnbonded.Builder :=
  execute (WithdrawUnbonded.machine Crates.Sample.module Native.Sample.runtime)
    (.empty withdrawOptions withdrawOptions_accepted) [.addOutput (output last)]

end Sample

/-- A builder with the nonce 2^64 takes an output, then has no transaction id. -/
theorem nonce_past_u64_refused :
    owAccountNonce (.ofNat (2 ^ 64)) = none ∧
    ¬ FaithfulNonce (.ofNat (2 ^ 64)) ∧
    WithdrawUnbonded.WithdrawUnbondedTransactionBuilder.new Sample.withdrawOptions =
      .ok (.empty Sample.withdrawOptions Sample.withdrawOptions_accepted) ∧
    Sample.withdraw.2.outputs = [Sample.output Sample.last] ∧
    outcome (WithdrawUnbonded.machine Crates.Sample.module Native.Sample.runtime)
      Sample.withdraw.2 .txId =
        .error (.error "Invalid nonce: number too large to fit in target type") := by
  have haccepted : owAccountNonce (.ofNat (2 ^ 64)) = none := by decide +kernel
  refine ⟨haccepted, ?_, WithdrawUnbonded.WithdrawUnbondedTransactionBuilder.new_eq_ok.mpr
    ⟨Sample.withdrawOptions_accepted, rfl⟩, by decide +kernel, by decide +kernel⟩
  intro h
  exact (parseAccountNonce_faithful_iff haccepted).mp h rfl

end ThalerNodelib.Marshalling
