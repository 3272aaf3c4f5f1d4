import ThalerNodelib.DepositSteps

/-!
What the builder of deposit transactions keeps of its history: the cache holds
the encoding of the inputs that were added, an input has a witness exactly when
it was signed or given one after the last input was added, and an export hands
over one witness for each input.
-/
namespace ThalerNodelib.Deposit

open Js Native Network KeyPairs ThalerNodelib.Types Runs

variable {native : NativeModule} {runtime : Runtime}

abbrev Event (native : NativeModule) := Entry JsError (Builder native) (Call native) Value

/-- A successful `addInput`. -/
def IsAddInput (e : Event native) : Prop := e.succeeded = true ∧ e.call.isAddInput = true

/-- A successful `signInput` or `addWitness` of the input. -/
def Signs (i : ℕ) (e : Event native) : Prop :=
  e.succeeded = true ∧
    ((∃ index witness, e.call = .addWitness index witness ∧ index.arrayIndex = some i) ∨
      ∃ index keyPair, e.call = .signInput index keyPair ∧ index.arrayIndex = some i)

/-- A successful `addWitness` of the witness to the input, or a successful
`signInput` whose signature of the id of the inputs of `s` is the witness. -/
def Supplies (s : Builder native) (i : ℕ) (witness : Buffer) (e : Event native) : Prop :=
  e.succeeded = true ∧
    ((∃ index, e.call = .addWitness index witness ∧ index.arrayIndex = some i) ∨
      ∃ index keyPair rawTx, e.call = .signInput index keyPair ∧ index.arrayIndex = some i ∧
        (cell native).build s = .ok rawTx ∧
        native.signer.schnorrSignTxId (bufferFromHex rawTx.txId) keyPair.toObject = .ok witness)

theorem Supplies.signs {s : Builder native} {i : ℕ} {witness : Buffer} {e : Event native}
    (h : Supplies s i witness e) : Signs i e := by
  obtain ⟨hok, ⟨index, hcall, hi⟩ | ⟨index, keyPair, rawTx, hcall, hi, -⟩⟩ := h
  · exact ⟨hok, Or.inl ⟨index, witness, hcall, hi⟩⟩
  · exact ⟨hok, Or.inr ⟨index, keyPair, hcall, hi⟩⟩

theorem Supplies.congr {s t : Builder native}
    (h : (cell native).build s = (cell native).build t) {i : ℕ} {witness : Buffer}
    (e : Event native) (hs : Supplies s i witness e) : Supplies t i witness e := by
  obtain ⟨hok, hadd | ⟨index, keyPair, rawTx, hcall, hi, hb, hw⟩⟩ := hs
  · exact ⟨hok, Or.inl hadd⟩
  · exact ⟨hok, Or.inr ⟨index, keyPair, rawTx, hcall, hi, h ▸ hb, hw⟩⟩

/-- The input that a call adds, if it succeeds. -/
def Call.prevOutputPointer : Call native → Option PrevOutputPointer
  | .addInput prevOutputPointer => some prevOutputPointer
  | _ => none

theorem accepted_other {e : Event native} (h : ¬ IsAddInput e) (log : List (Event native)) :
    accepted Call.prevOutputPointer (e :: log) = accepted Call.prevOutputPointer log := by
  refine accepted_none (fun hok => ?_) log
  cases hc : e.call with
  | addInput prevOutputPointer => exact absurd ⟨hok, by rw [hc]; rfl⟩ h
  | _ => rfl

/-- What every reachable builder keeps of its history. -/
structure History (s₀ : Builder native) (log : List (Event native)) (s : Builder native) :
    Prop where
  coherent : (cell native).Coherent s
  network : s.network = s₀.network
  stakingAddress : s.stakingAddress = s₀.stakingAddress
  pointers : s.inputs.map WitnessedPrevOutputPointer.prevOutputPointer = accepted Call.prevOutputPointer log
  supplied : ∀ i input witness, s.inputs[i]? = some input → input.witness = some witness →
    Since (Supplies s i witness) IsAddInput log
  signed : ∀ i input, s.inputs[i]? = some input → Since (Signs i) IsAddInput log →
    input.witness.isSome = true

theorem not_signs_of_isAddInput {i : ℕ} {e : Event native} (h : IsAddInput e) : ¬ Signs i e := by
  intro hsigns
  rcases hsigns with ⟨-, ⟨index, witness, hcall, -⟩ | ⟨index, keyPair, hcall, -⟩⟩
  · have hadd := h.2
    rw [hcall] at hadd
    cases hadd
  · have hadd := h.2
    rw [hcall] at hadd
    cases hadd

theorem clearCachedData_getElem? {s : Builder native} {prevOutputPointer : PrevOutputPointer}
    {i : ℕ} {input : WitnessedPrevOutputPointer}
    (h : (s.clearCachedData.pushInput prevOutputPointer).inputs[i]? = some input) :
    input.witness = none := by
  have hmem := List.mem_of_getElem? h
  rcases List.mem_append.mp hmem with hold | hnew
  · obtain ⟨old, -, rfl⟩ := List.mem_map.mp hold
    rfl
  · obtain rfl := List.mem_singleton.mp hnew
    rfl

theorem History.addInput {s₀ s : Builder native} {log : List (Event native)}
    (hs : History s₀ log s) (prevOutputPointer : PrevOutputPointer) (v : Value) :
    History s₀ (⟨s, .addInput prevOutputPointer, .ok v⟩ :: log)
      (s.clearCachedData.pushInput prevOutputPointer) := by
  have hadd : IsAddInput (⟨s, .addInput prevOutputPointer, .ok v⟩ : Event native) := ⟨rfl, rfl⟩
  refine ⟨Or.inl rfl, hs.network, hs.stakingAddress, ?_, ?_, ?_⟩
  · have hacc : accepted Call.prevOutputPointer (⟨s, .addInput prevOutputPointer, .ok v⟩ :: log) =
        accepted Call.prevOutputPointer log ++ [prevOutputPointer] := accepted_some (by rfl) (by rfl) log
    rw [hacc, ← hs.pointers]
    simp [DepositTransactionBuilder.pushInput, DepositTransactionBuilder.clearCachedData,
      DepositTransactionBuilder.clearWitnesses, DepositTransactionBuilder.clearPreparedRawTx,
      Function.comp_def]
  · intro i input witness hi hw
    rw [clearCachedData_getElem? hi] at hw
    cases hw
  · intro i input _ hsince
    rcases (since_cons _ _).mp hsince with hsigns | ⟨hno, -⟩
    · exact absurd hsigns (not_signs_of_isAddInput hadd)
    · exact absurd hadd hno

/-- Setting a witness, where the event supplies it for the builder. -/
theorem History.setWitness {s₀ s : Builder native} {log : List (Event native)}
    {e : Event native} (hs : History s₀ log s) (i : ℕ) (witness : Buffer)
    (he : Supplies s i witness e) (hother : ∀ j, Signs j e → j = i) (hadd : ¬ IsAddInput e) :
    History s₀ (e :: log) (s.setWitness i witness) := by
  have hbuild : (cell native).build s = (cell native).build (s.setWitness i witness) :=
    (setWitness_build s i witness).symm
  refine ⟨setWitness_coherent hs.coherent i witness, hs.network, hs.stakingAddress, ?_, ?_, ?_⟩
  · rw [setWitness_pointers, accepted_other hadd, hs.pointers]
  · intro j input w hj hw
    rw [setWitness_getElem?] at hj
    by_cases hij : i = j
    · subst hij
      obtain ⟨old, -, rfl⟩ := Option.map_eq_some_iff.mp (by simpa using hj)
      obtain rfl : witness = w := Option.some.inj hw
      exact (since_cons _ _).mpr (Or.inl (he.congr hbuild e))
    · rw [if_neg hij] at hj
      have hold := (hs.supplied j input w hj hw).mono (Supplies.congr hbuild)
      exact (since_cons _ _).mpr (Or.inr ⟨hadd, hold⟩)
  · intro j input hj hsince
    rw [setWitness_getElem?] at hj
    by_cases hij : i = j
    · subst hij
      obtain ⟨old, -, rfl⟩ := Option.map_eq_some_iff.mp (by simpa using hj)
      rfl
    · rw [if_neg hij] at hj
      rcases (since_cons _ _).mp hsince with hsigns | ⟨-, hold⟩
      · exact absurd (hother j hsigns).symm hij
      · exact hs.signed j input hj hold

/-- A call that neither adds nor signs leaves the history as it is. -/
theorem History.other {s₀ s : Builder native} {log : List (Event native)} {e : Event native}
    (hs : History s₀ log s) (hadd : ¬ IsAddInput e) (hsigns : ∀ i, ¬ Signs i e) :
    History s₀ (e :: log) s := by
  refine { hs with
    pointers := by rw [accepted_other hadd, hs.pointers]
    supplied := ?_
    signed := ?_ }
  · intro i input witness hi hw
    exact (since_cons _ _).mpr (Or.inr ⟨hadd, hs.supplied i input witness hi hw⟩)
  · intro i input hi hsince
    rcases (since_cons _ _).mp hsince with h | ⟨-, hold⟩
    · exact absurd h (hsigns i)
    · exact hs.signed i input hi hold

/-- Filling the cache changes nothing that the history speaks of. -/
theorem History.fill {s₀ s : Builder native} {log : List (Event native)} {rawTx : RawTx}
    (hs : History s₀ log s) (hb : (cell native).build s = .ok rawTx) :
    History s₀ log (s.setPreparedRawTx rawTx) :=
  ⟨(cell native).coherent_fill hb, hs.network, hs.stakingAddress, hs.pointers,
    fun i input witness hi hw => (hs.supplied i input witness hi hw).mono (Supplies.congr rfl),
    hs.signed⟩

theorem not_event {s : Builder native} {c : Call native} {r : Except JsError Value}
    (h : ∀ v, r = .ok v → c.isAddInput = false ∧ c.isSigning = false) :
    ¬ IsAddInput (⟨s, c, r⟩ : Event native) ∧ ∀ i, ¬ Signs i (⟨s, c, r⟩ : Event native) := by
  constructor
  · intro hadded
    obtain ⟨hok, hadd⟩ := hadded
    obtain ⟨v, hv⟩ := (Entry.succeeded_iff _).mp hok
    rw [(h v hv).1] at hadd
    cases hadd
  · intro i hsigns
    obtain ⟨hok, hcall⟩ := hsigns
    obtain ⟨v, hv⟩ := (Entry.succeeded_iff _).mp hok
    have hno := (h v hv).2
    rcases hcall with ⟨index, witness, hcall, -⟩ | ⟨index, keyPair, hcall, -⟩
    · change c = _ at hcall
      rw [hcall] at hno
      cases hno
    · change c = _ at hcall
      rw [hcall] at hno
      cases hno

theorem History.step {s₀ s t : Builder native} {log : List (Event native)} {c : Call native}
    {r : Except JsError Value} (hs : History s₀ log s) (h : Step native s c r t) :
    History s₀ (⟨s, c, r⟩ :: log) t := by
  cases h with
  | addInput prevOutputPointer _ => exact hs.addInput prevOutputPointer .this
  | signInput index keyPair i rawTx witness hi _ hb hsign =>
    refine (hs.fill hb).setWitness i witness ⟨rfl, Or.inr ⟨index, keyPair, rawTx, rfl, hi, hb, hsign⟩⟩
      ?_ fun hadd => by cases hadd.2
    intro j hsigns
    rcases hsigns with ⟨-, ⟨index', w, hcall, -⟩ | ⟨index', keyPair', hcall, hj⟩⟩
    · cases hcall
    · cases hcall
      rw [hi] at hj
      exact (Option.some.inj hj).symm
  | addWitness index i witness hi _ =>
    refine hs.setWitness i witness ⟨rfl, Or.inl ⟨index, rfl, hi⟩⟩ ?_ fun hadd => by cases hadd.2
    intro j hsigns
    rcases hsigns with ⟨-, ⟨index', w, hcall, hj⟩ | ⟨index', keyPair', hcall, -⟩⟩
    · cases hcall
      rw [hi] at hj
      exact (Option.some.inj hj).symm
    · cases hcall
  | kept hno => exact hs.other (not_event hno).1 (not_event hno).2
  | filled rawTx hno hb => exact (hs.fill hb).other (not_event hno).1 (not_event hno).2

theorem History.start {options : DepositTransactionBuilderOptions} {s₀ : Builder native}
    (h : DepositTransactionBuilder.new native options = .ok s₀) : History s₀ [] s₀ := by
  have hcoherent := new_coherent h
  obtain ⟨_, rfl⟩ := DepositTransactionBuilder.new_eq_ok.mp h
  refine ⟨hcoherent, rfl, rfl, rfl, ?_, ?_⟩
  · intro i input witness hi
    cases hi
  · intro i input hi
    cases hi

theorem History.run {s₀ s : Builder native} {log : List (Event native)}
    (hs₀ : History s₀ [] s₀) (run : Run (machine native runtime) s₀ log s) : History s₀ log s :=
  run.invariant (History s₀) hs₀ fun _ _ c _ hs => hs.step (Deposit.step hs.coherent c)

theorem isCompleted_iff (s : Builder native) :
    s.isCompleted = true ↔
      0 < s.inputs.length ∧ ∀ input ∈ s.inputs, input.witness.isSome = true := by
  unfold DepositTransactionBuilder.isCompleted DepositTransactionBuilder.hasInput
  cases hlen : s.inputs with
  | nil => simp
  | cons input rest => simp [Option.isSome_iff_ne_none]

/-- The builder is completed when it has an input and each input was signed, or
given a witness, after the last `addInput`. -/
theorem History.isCompleted_iff {s₀ s : Builder native} {log : List (Event native)}
    (hs : History s₀ log s) :
    s.isCompleted = true ↔ 0 < s.inputs.length ∧
      ∀ i, i < s.inputs.length → Since (Signs i) IsAddInput log := by
  rw [Deposit.isCompleted_iff]
  refine and_congr_right fun _ => ?_
  constructor
  · intro hall i hi
    obtain ⟨witness, hw⟩ := Option.isSome_iff_exists.mp (hall _ (List.getElem_mem hi))
    exact (hs.supplied i _ witness (List.getElem?_eq_getElem hi) hw).mono fun _ h => h.signs
  · intro hall input hinput
    obtain ⟨i, hi, rfl⟩ := List.mem_iff_getElem.mp hinput
    exact hs.signed i _ (List.getElem?_eq_getElem hi) (hall i hi)

theorem completed_witnesses {s : Builder native} (h : s.isCompleted = true) :
    ∃ witnesses : List Buffer,
      s.inputs.map WitnessedPrevOutputPointer.witness = witnesses.map some := by
  have hall := ((isCompleted_iff s).mp h).2
  refine ⟨s.inputs.map fun input => input.witness.getD [], ?_⟩
  rw [List.map_map]
  apply List.map_congr_left
  intro input hinput
  obtain ⟨witness, hw⟩ := Option.isSome_iff_exists.mp (hall input hinput)
  simp [hw]

theorem toHex_emits {s : Builder native} (hs : (cell native).Coherent s)
    {address : Option String} {hex : Value}
    (h : outcome (machine native runtime) s (.toHex address) = .ok hex) :
    ∃ (rawTx : RawTx) (witnesses : List Buffer) (obfuscated : Buffer),
      (cell native).build s = .ok rawTx ∧
      s.inputs.map WitnessedPrevOutputPointer.witness = witnesses.map some ∧
      native.stakingTransaction.depositTransactionToHex (some rawTx.unsignedRawTx)
        (witnesses.map some) (address.getD defaultTendermintAddress)
        (getRustFeaturesFromEnv runtime.nodeEnv) = .ok obfuscated ∧
      hex = .buffer obfuscated := by
  have hrun := toHex_run runtime hs address
  cases how : ow (owTendermintAddress runtime (address.getD defaultTendermintAddress))
      "tendermintAddress" with
  | error e => simp [outcome, machine, hrun, how] at h
  | ok _ =>
    cases hb : (cell native).build s with
    | error e => simp [outcome, machine, hrun, how, hb] at h
    | ok rawTx =>
      cases hdone : s.isCompleted with
      | false => simp [outcome, machine, hrun, how, hb, hdone] at h
      | true =>
        obtain ⟨witnesses, hwitnesses⟩ := completed_witnesses hdone
        cases hnative : native.stakingTransaction.depositTransactionToHex
            (some rawTx.unsignedRawTx) (s.inputs.map WitnessedPrevOutputPointer.witness)
            (address.getD defaultTendermintAddress) (getRustFeaturesFromEnv runtime.nodeEnv) with
        | error e => simp [outcome, machine, hrun, how, hb, hdone, hnative] at h
        | ok obfuscated =>
          refine ⟨rawTx, witnesses, obfuscated, rfl, hwitnesses, by rw [← hwitnesses, hnative], ?_⟩
          simpa [outcome, machine, hrun, how, hb, hdone, hnative] using h.symm

/-- What holds of the log and the state of every run. -/
structure RunInvariant (native : NativeModule) (runtime : Runtime)
    (options : DepositTransactionBuilderOptions) (log : List (Event native))
    (s : Builder native) : Prop where
  cache : s.unsignedRawTx = none ∧ s.innertTxId = none ∨
    ∃ rawTx, native.stakingTransaction.buildRawDepositTransaction {
        inputs := accepted Call.prevOutputPointer log
        toAddress := options.stakingAddress
        chainHexId := (initNetwork options.network).chainHexId } = .ok rawTx ∧
      s.unsignedRawTx = some rawTx.unsignedRawTx ∧ s.innertTxId = some rawTx.txId
  pointers : s.inputs.map WitnessedPrevOutputPointer.prevOutputPointer =
    accepted Call.prevOutputPointer log
  witness : ∀ i input witness, s.inputs[i]? = some input → input.witness = some witness →
    Since (Supplies s i witness) IsAddInput log
  completed : s.isCompleted = true ↔ 0 < s.inputs.length ∧
    ∀ i, i < s.inputs.length → Since (Signs i) IsAddInput log
  toHex : ∀ address hex, outcome (machine native runtime) s (.toHex address) = .ok hex →
    ∃ (rawTx : RawTx) (witnesses : List Buffer) (obfuscated : Buffer),
      (cell native).build s = .ok rawTx ∧
      s.inputs.map WitnessedPrevOutputPointer.witness = witnesses.map some ∧
      native.stakingTransaction.depositTransactionToHex (some rawTx.unsignedRawTx)
        (witnesses.map some) (address.getD defaultTendermintAddress)
        (getRustFeaturesFromEnv runtime.nodeEnv) = .ok obfuscated ∧
      hex = .buffer obfuscated

/-- Every run of the builder keeps its cache, its witnesses and its exports in
step with the inputs that were added. -/
theorem run_invariant {options : DepositTransactionBuilderOptions} {s₀ s : Builder native}
    {log : List (Event native)}
    (hnew : DepositTransactionBuilder.new native options = .ok s₀)
    (run : Run (machine native runtime) s₀ log s) :
    RunInvariant native runtime options log s := by
  have hs := (History.start hnew).run run
  refine ⟨?_, hs.pointers, hs.supplied, hs.isCompleted_iff, fun _ _ h => toHex_emits hs.coherent h⟩
  obtain ⟨_, rfl⟩ := DepositTransactionBuilder.new_eq_ok.mp hnew
  rcases hs.coherent with hempty | ⟨rawTx, hb, hfull⟩
  · refine Or.inl ⟨?_, ?_⟩ <;> rw [← hempty] <;> rfl
  · refine Or.inr ⟨rawTx, ?_, ?_, ?_⟩
    · cases hinput : s.hasInput with
      | false =>
        rw [build_of_no_input hinput] at hb
        cases hb
      | true =>
        rw [build_of_hasInput hinput] at hb
        simpa [DepositTransactionBuilder.rawTxOptions, hs.network, hs.stakingAddress,
          hs.pointers, DepositTransactionBuilder.empty] using hb
    · rw [← hfull]
      rfl
    · rw [← hfull]
      rfl

namespace Sample

def options : DepositTransactionBuilderOptions := ⟨"0x", none⟩

theorem options_accepted :
    owDepositTransactionOptions Native.Sample.module options = .ok none := by decide +kernel

def start : Builder Native.Sample.module := .empty options options_accepted

def pointer : PrevOutputPointer :=
  ⟨"0000000000000000000000000000000000000000000000000000000000000001", .ofNat 0⟩

def run : Log JsError (Builder Native.Sample.module) (Call Native.Sample.module) Value ×
    Builder Native.Sample.module :=
  execute (machine Native.Sample.module Native.Sample.runtime) start
    [.addInput pointer, .signInput (.ofNat 0) Sample.keyPair, .addInput pointer,
      .addWitness (.finite (1 / 2)) [1], .addWitness (.ofNat 1) [1], .toHex none]

end Sample

theorem run_invariant_sample : RunInvariant Native.Sample.module Native.Sample.runtime
    Sample.options Sample.run.1 Sample.run.2 :=
  run_invariant (DepositTransactionBuilder.new_eq_ok.mpr ⟨Sample.options_accepted, rfl⟩)
    (run_execute _ _ _)

end ThalerNodelib.Deposit
