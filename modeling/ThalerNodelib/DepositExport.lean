import ThalerNodelib.DepositHistory
import ThalerNodelib.NativeExport
import ThalerNodelib.SampleCrates

/-!
When a completed deposit can be exported. A witness is stored as it is given
and decoded by the export, which also builds the transaction where only
witnesses were added.
-/
namespace ThalerNodelib.Deposit

open Js Native Network KeyPairs ThalerNodelib.Types Runs Crates NativeExport NativeFromCrates
  NativeStaking

variable {crates : Crates} {multiSig : MultiSigModule} {runtime : Runtime}

/-- An export to an accepted address. -/
def IsExport {native : NativeModule} (runtime : Runtime) (c : Call native) : Prop :=
  ∃ address, c = .toHex address ∧
    owTendermintAddress runtime (address.getD defaultTendermintAddress) = none

/-- The chain id is one byte and each stored witness decodes. -/
def Exportable (crates : Crates) {native : NativeModule} (s : Builder native) : Prop :=
  (∃ chainHexId, s.network.chainHexId = [chainHexId]) ∧
    ∀ input ∈ s.inputs, ∀ witness, input.witness = some witness → InWitness crates witness

def PointersAccepted {native : NativeModule} (s : Builder native) : Prop :=
  ∀ pointer ∈ s.inputs.map WitnessedPrevOutputPointer.prevOutputPointer,
    owPrevOutputPointer pointer = none

theorem Step.pointersAccepted {native : NativeModule} {s t : Builder native} {c : Call native}
    {r : Except JsError Value} (hs : PointersAccepted s) (h : Step native s c r t) :
    PointersAccepted t := by
  cases h with
  | addInput pointer haccepted =>
    intro p hp
    have hmap : (s.clearCachedData.pushInput pointer).inputs.map
        WitnessedPrevOutputPointer.prevOutputPointer =
          s.inputs.map WitnessedPrevOutputPointer.prevOutputPointer ++ [pointer] := by
      simp [DepositTransactionBuilder.pushInput, DepositTransactionBuilder.clearCachedData,
        DepositTransactionBuilder.clearPreparedRawTx, DepositTransactionBuilder.clearWitnesses,
        Function.comp_def]
    rw [hmap] at hp
    rcases List.mem_append.mp hp with hold | hnew
    · exact hs p hold
    · obtain rfl := List.mem_singleton.mp hnew
      exact haccepted
  | signInput index keyPair i rawTx witness _ _ _ _ =>
    unfold PointersAccepted
    rw [setWitness_pointers]
    exact hs
  | addWitness index i witness _ _ =>
    unfold PointersAccepted
    rw [setWitness_pointers]
    exact hs
  | kept _ => exact hs
  | filled rawTx _ _ => exact hs

theorem run_pointersAccepted {native : NativeModule} {options : DepositTransactionBuilderOptions}
    {s₀ s : Builder native} {log : Log JsError (Builder native) (Call native) Value}
    (hnew : DepositTransactionBuilder.new native options = .ok s₀)
    (run : Run (machine native runtime) s₀ log s) : PointersAccepted s := by
  have hs₀ := new_coherent hnew
  refine run.invariant (fun _ s => PointersAccepted s) ?_ fun log s c hrun hs =>
    (step (run_coherent hs₀ hrun) c).pointersAccepted hs
  obtain ⟨_, rfl⟩ := DepositTransactionBuilder.new_eq_ok.mp hnew
  intro pointer hpointer
  cases hpointer

/-- The staking address of a builder passed the check of the constructor. -/
theorem stakingAddress_valid (s : Builder (nativeModule crates multiSig)) :
    isStakingAddressValid crates s.stakingAddress = .ok true := by
  obtain ⟨valid, hvalid, hcheck⟩ := bind_eq_ok.mp s.stakingAddress_accepted
  rw [(check_eq_none _ _).mp (Except.ok.inj hcheck)] at hvalid
  exact hvalid

/-- What the export of a completed builder computes. -/
theorem toHex_outcome {native : NativeModule} {s : Builder native}
    (hs : (cell native).Coherent s) (hcompleted : s.isCompleted = true) {address : Option String}
    (haddress : owTendermintAddress runtime (address.getD defaultTendermintAddress) = none) :
    outcome (machine native runtime) s (.toHex address) =
      ((cell native).build s >>= fun rawTx =>
        native.stakingTransaction.depositTransactionToHex (some rawTx.unsignedRawTx)
          (s.inputs.map WitnessedPrevOutputPointer.witness)
          (address.getD defaultTendermintAddress)
          (getRustFeaturesFromEnv runtime.nodeEnv)).map Value.buffer := by
  simp only [outcome, machine, EStateM.run_bind, toHex_run runtime hs, haddress, ow_none,
    hcompleted, if_true]
  cases (cell native).build s with
  | error e => rfl
  | ok rawTx =>
    cases hnative : native.stakingTransaction.depositTransactionToHex (some rawTx.unsignedRawTx)
      (s.inputs.map WitnessedPrevOutputPointer.witness) (address.getD defaultTendermintAddress)
      (getRustFeaturesFromEnv runtime.nodeEnv) <;> simp [hnative, bind, Except.bind, Except.map]

theorem hasInput_of_isCompleted {native : NativeModule} {s : Builder native}
    (h : s.isCompleted = true) : s.hasInput = true := by
  have hpos := ((isCompleted_iff s).mp h).1
  have hne : s.inputs.length ≠ 0 := by omega
  simpa [DepositTransactionBuilder.hasInput] using hne

/-- An export that succeeds was of a completed builder, to an accepted address. -/
theorem checks_of_toHex {native : NativeModule} {s : Builder native} (hs : (cell native).Coherent s)
    {address : Option String} {v : Value}
    (h : outcome (machine native runtime) s (.toHex address) = .ok v) :
    s.isCompleted = true ∧
      owTendermintAddress runtime (address.getD defaultTendermintAddress) = none := by
  simp only [outcome, machine, EStateM.run_bind, toHex_run runtime hs] at h
  cases how : owTendermintAddress runtime (address.getD defaultTendermintAddress) with
  | some message =>
    rw [how] at h
    cases h
  | none =>
    rw [how] at h
    cases hb : (cell native).build s with
    | error e =>
      rw [hb] at h
      cases h
    | ok rawTx =>
      rw [hb] at h
      cases hdone : s.isCompleted with
      | true => exact ⟨rfl, rfl⟩
      | false => simp [hdone] at h

/-- What is built is the object of a raw transaction, on a chain id of one byte. -/
theorem rawTxObject_of_build {s : Builder (nativeModule crates multiSig)}
    (hinput : s.hasInput = true) {rawTx : RawTx}
    (h : (cell (nativeModule crates multiSig)).build s = .ok rawTx) :
    (∃ chainHexId, s.network.chainHexId = [chainHexId]) ∧
      ∃ tx, rawTx = rawTxObject crates.transactions.depositBondTx tx := by
  rw [build_of_hasInput hinput] at h
  exact buildRawDepositTransaction_eq_ok h

/-- With a chain id of one byte it is built. -/
theorem build_isOk {s : Builder (nativeModule crates multiSig)} (hpointers : PointersAccepted s)
    (hinput : s.hasInput = true) (hchain : ∃ chainHexId, s.network.chainHexId = [chainHexId]) :
    ∃ tx, (cell (nativeModule crates multiSig)).build s =
      .ok (rawTxObject crates.transactions.depositBondTx tx) := by
  obtain ⟨rawTx, hraw⟩ := buildRawDepositTransaction_isOk s.rawTxOptions hpointers
    (stakingAddress_valid s) hchain
  obtain ⟨-, tx, rfl⟩ := buildRawDepositTransaction_eq_ok hraw
  refine ⟨tx, ?_⟩
  rw [build_of_hasInput hinput]
  exact hraw

theorem decodes_iff {native : NativeModule} {s : Builder native}
    (hcompleted : s.isCompleted = true) :
    (∀ witness ∈ s.inputs.map WitnessedPrevOutputPointer.witness,
      ∃ bytes, witness = some bytes ∧ InWitness crates bytes) ↔
      ∀ input ∈ s.inputs, ∀ witness, input.witness = some witness →
        InWitness crates witness := by
  rw [List.forall_mem_map]
  refine forall₂_congr fun input hinput => ?_
  obtain ⟨witness, hw⟩ := Option.isSome_iff_exists.mp
    (((isCompleted_iff s).mp hcompleted).2 input hinput)
  simp [hw]

/-- A completed builder is exported to an accepted address exactly when its
chain id is one byte and its witnesses decode. -/
theorem toHex_isOk_iff (laws : ExportLaws crates) {s : Builder (nativeModule crates multiSig)}
    (hs : (cell (nativeModule crates multiSig)).Coherent s) (hpointers : PointersAccepted s)
    (hcompleted : s.isCompleted = true) {address : Option String}
    (haddress : owTendermintAddress runtime (address.getD defaultTendermintAddress) = none) :
    (∃ v, outcome (machine (nativeModule crates multiSig) runtime) s (.toHex address) = .ok v) ↔
      Exportable crates s := by
  have hinput := hasInput_of_isCompleted hcompleted
  have hexport := fun tx => depositTransactionToHex_isOk_iff laws tx
    (s.inputs.map WitnessedPrevOutputPointer.witness)
    (startsWith_of_owTendermintAddress haddress) (getRustFeaturesFromEnv runtime.nodeEnv)
  rw [toHex_outcome hs hcompleted haddress]
  constructor
  · intro h
    obtain ⟨v, hv⟩ := h
    obtain ⟨hex, hhex, -⟩ := map_eq_ok.mp hv
    obtain ⟨rawTx, hb, hhex⟩ := bind_eq_ok.mp hhex
    obtain ⟨hchain, tx, rfl⟩ := rawTxObject_of_build hinput hb
    exact ⟨hchain, (decodes_iff hcompleted).mp ((hexport tx).mp ⟨hex, hhex⟩)⟩
  · intro h
    obtain ⟨hchain, hdecodes⟩ := h
    obtain ⟨tx, hb⟩ := build_isOk hpointers hinput hchain
    obtain ⟨hex, hhex⟩ := (hexport tx).mpr ((decodes_iff hcompleted).mpr hdecodes)
    exact ⟨.buffer hex, map_eq_ok.mpr ⟨hex, bind_eq_ok.mpr ⟨_, hb, hhex⟩, rfl⟩⟩

/-- The completed builders of a run can be exported exactly when each of them
has a chain id of one byte and witnesses that decode. -/
theorem exports_iff (laws : ExportLaws crates)
    (haddress : ∃ address, owTendermintAddress runtime address = none)
    {options : DepositTransactionBuilderOptions} {s₀ : Builder (nativeModule crates multiSig)}
    {log : Log JsError (Builder (nativeModule crates multiSig))
      (Call (nativeModule crates multiSig)) Value}
    (hnew : DepositTransactionBuilder.new (nativeModule crates multiSig) options = .ok s₀) :
    SucceedsWhen (machine (nativeModule crates multiSig) runtime) s₀ log
      (fun t => t.isCompleted = true) (IsExport runtime) ↔
    Throughout (machine (nativeModule crates multiSig) runtime) s₀ log fun _ t =>
      t.isCompleted = true → Exportable crates t := by
  have hs₀ := new_coherent hnew
  constructor
  · intro hexports older t hsuffix hrun hcompleted
    obtain ⟨address, haddress⟩ := haddress
    exact (toHex_isOk_iff laws (run_coherent hs₀ hrun) (run_pointersAccepted hnew hrun) hcompleted
      haddress).mp (hexports older t hsuffix hrun hcompleted (.toHex (some address))
        ⟨some address, rfl, haddress⟩)
  · intro hexportable older t hsuffix hrun hcompleted c h
    obtain ⟨address, rfl, haddress⟩ := h
    exact (toHex_isOk_iff laws (run_coherent hs₀ hrun) (run_pointersAccepted hnew hrun) hcompleted
      haddress).mpr (hexportable older t hsuffix hrun hcompleted)

/-! A builder of deposits on the sample crates. -/
namespace Sample

def cratesOptions : DepositTransactionBuilderOptions :=
  ⟨"0x" ++ hexEncode (List.replicate 20 7), none⟩

theorem cratesOptions_accepted :
    owDepositTransactionOptions Crates.Sample.module cratesOptions = .ok none := by
  decide +kernel

def cratesStart : Builder Crates.Sample.module := .empty cratesOptions cratesOptions_accepted

theorem new_cratesOptions :
    DepositTransactionBuilder.new Crates.Sample.module cratesOptions = .ok cratesStart :=
  DepositTransactionBuilder.new_eq_ok.mpr ⟨cratesOptions_accepted, rfl⟩

end Sample

end ThalerNodelib.Deposit
