import ThalerNodelib.TransferPayload

/-!
When a transfer is completed. The witnesses are in the stored transaction,
which the native module extends and an addition discards, and a call that
throws can leave one without any; over a run they are those of the inputs
signed since the last addition.
-/
namespace ThalerNodelib.Transfer

open Js Native Network KeyPairs ThalerNodelib.Types Runs Crates FunctionTypes NativeStaking
  NativeTransfer NativeFromCrates

variable {crates : Crates} {multiSig : MultiSigModule} {native : NativeModule} {runtime : Runtime}

/-- The index of the input that the call gives a witness to. -/
def Call.index : Call native → Option JsNumber
  | .signInput index _ => some index
  | .addWitness index _ => some index
  | _ => none

/-- The call succeeded and gave the `i`-th input a witness. -/
def Gives (i : ℕ) (e : Entry JsError Builder (Call native) Value) : Prop :=
  e.succeeded = true ∧ e.call.index = some (.ofNat i)

/-- The call succeeded and added to the transaction. -/
def Adds (e : Entry JsError Builder (Call native) Value) : Prop :=
  e.succeeded = true ∧ e.call.isAddition = true

/-- The `i`-th input was given a witness since the last addition. -/
def Given (i : ℕ) (log : Log JsError Builder (Call native) Value) : Prop := Since (Gives i) Adds log

theorem index_of_not_signing {c : Call native} (h : c.isSigning = false) : c.index = none := by
  cases c <;> first | rfl | cases h

theorem not_addition_of_index {c : Call native} {index : JsNumber} (h : c.index = some index) :
    c.isAddition = false := by
  cases c <;> first | rfl | cases h

section Given
variable {i : ℕ} {log : Log JsError Builder (Call native) Value}
  {e : Entry JsError Builder (Call native) Value}

theorem given_addition (h : Adds e) : ¬ Given i (e :: log) := by
  intro hgiven
  rcases (since_cons e log).mp hgiven with hgives | ⟨hno, -⟩
  · obtain ⟨-, hadds⟩ := h
    rw [not_addition_of_index hgives.2] at hadds
    cases hadds
  · exact hno h

/-- A call that adds nothing and gives no witness changes nothing. -/
theorem given_other (h : e.succeeded = true → e.call.isAddition = false ∧ e.call.isSigning = false) :
    Given i (e :: log) ↔ Given i log := by
  refine (since_cons e log).trans ⟨fun hgiven => ?_, fun hgiven => Or.inr ⟨?_, hgiven⟩⟩
  · rcases hgiven with ⟨hok, hindex⟩ | ⟨-, hgiven⟩
    · rw [index_of_not_signing (h hok).2] at hindex
      cases hindex
    · exact hgiven
  · intro hadds
    obtain ⟨hok, hadds⟩ := hadds
    rw [(h hok).1] at hadds
    cases hadds

theorem given_index {k : ℕ} (hok : e.succeeded = true) (hindex : e.call.index = some (.ofNat k)) :
    Given i (e :: log) ↔ i = k ∨ Given i log := by
  have hadds : ¬ Adds e := by
    intro h
    obtain ⟨-, hadds⟩ := h
    rw [not_addition_of_index hindex] at hadds
    cases hadds
  have hgives : Gives i e ↔ i = k := by
    refine (and_iff_right hok).trans ?_
    rw [hindex, Option.some.injEq, JsNumber.ofNat_inj, eq_comm]
  rw [Given, since_cons, hgives, and_iff_right hadds]
  rfl

end Given

/-- The `i`-th input of the raw builder has a witness. -/
def Witnessed (witnesses : crates.core.Builder → List (Option crates.types.TxInWitness))
    (raw : crates.core.Builder) (i : ℕ) : Prop :=
  ∃ witness, (witnesses raw)[i]? = some (some witness)

variable {contents : crates.core.Builder → RawContents crates.types}
  {witnesses : crates.core.Builder → List (Option crates.types.TxInWitness)}

theorem all_witnessed_iff (raw : crates.core.Builder) :
    (witnesses raw).all Option.isSome = true ↔
      ∀ i < (witnesses raw).length, Witnessed witnesses raw i := by
  rw [List.all_eq_true]
  constructor
  · intro h i hi
    obtain ⟨witness, hwitness⟩ := Option.isSome_iff_exists.mp (h _ (List.getElem_mem hi))
    exact ⟨witness, by rw [List.getElem?_eq_getElem hi, hwitness]⟩
  · intro h x hx
    obtain ⟨i, hi, rfl⟩ := List.getElem_of_mem hx
    obtain ⟨witness, hwitness⟩ := h i hi
    rw [List.getElem?_eq_getElem hi, Option.some.injEq] at hwitness
    rw [hwitness]
    rfl

/-- A transaction as it is built has no witness. -/
theorem not_witnessed_of_replicate {raw : crates.core.Builder} {n : ℕ}
    (h : witnesses raw = List.replicate n none) (i : ℕ) : ¬ Witnessed witnesses raw i := by
  intro hwitnessed
  obtain ⟨witness, hwitness⟩ := hwitnessed
  rw [h, List.getElem?_replicate] at hwitness
  split at hwitness <;> cases hwitness

theorem witnessed_addWitness
    (laws : RawBuilderLaws crates.core crates.transactions contents witnesses)
    {raw extended : crates.core.Builder} {k : ℕ} {witness : crates.types.TxInWitness}
    (h : crates.core.addWitness raw k witness = .ok extended) (i : ℕ) :
    Witnessed witnesses extended i ↔ i = k ∨ Witnessed witnesses raw i := by
  obtain ⟨hk, hset⟩ := laws.addWitness_witnesses _ _ _ _ h
  rw [Witnessed, hset]
  by_cases hik : i = k
  · subst hik
    rw [List.getElem?_set_self hk]
    simp
  · rw [List.getElem?_set_ne (Ne.symm hik), or_iff_right hik]
    rfl

/-- What a call that succeeded in giving a witness did. -/
theorem Step.gives {s t : Builder} {c : Call (nativeModule crates multiSig)} {index : JsNumber}
    {v : Value} (h : Step (nativeModule crates multiSig) s c (.ok v) t)
    (hc : c.index = some index) :
    ∃ incompleteHex raw i witness extended, s.hasInput = true ∧
      s.toIncompleteHex (nativeModule crates multiSig) = .ok incompleteHex ∧
      incompleteBuilderLinearFeeArgument crates ⟨some incompleteHex, s.nativeFeeConfig⟩ = .ok raw ∧
      index = .ofNat i ∧ crates.core.addWitness raw i witness = .ok extended ∧
      t = s.setIncompleteHex (crates.core.toIncomplete extended) := by
  cases h with
  | addInput _ _ _ => cases hc
  | addOutput _ _ _ => cases hc
  | addViewKey _ _ => cases hc
  | signInput _ _ incompleteHex updated hverify hhex hsign =>
    obtain rfl := Option.some.inj hc
    obtain ⟨raw, i, witness, extended, hraw, hi, -, hadd, rfl⟩ := signInputLinearFee_eq_ok hsign
    exact ⟨incompleteHex, raw, i, witness, extended,
      hasInput_of_owIndex (owIndex_of_verifySignable hverify), hhex, hraw,
      JsNumber.arrayIndex_eq_some hi, hadd, rfl⟩
  | addWitness _ _ incompleteHex updated hindex hhex hnative =>
    obtain rfl := Option.some.inj hc
    obtain ⟨raw, i, witness, extended, hraw, hi, -, hadd, rfl⟩ :=
      addInputWitnessLinearFee_eq_ok.mp hnative
    exact ⟨incompleteHex, raw, i, witness, extended, hasInput_of_owIndex hindex, hhex, hraw,
      JsNumber.arrayIndex_eq_some (JsNumber.parseUsize_arrayIndex hi), hadd, rfl⟩
  | kept hno =>
    rw [index_of_not_signing (hno v rfl).2] at hc
    cases hc

section Tracks
variable (contents witnesses) in
/-- The inputs that were given a witness since the last addition are those with
one in the stored transaction, and there are none where nothing is stored. -/
structure Tracks (multiSig : MultiSigModule)
    (log : Log JsError Builder (Call (nativeModule crates multiSig)) Value) (s : Builder) :
    Prop where
  absent : s.incompleteHex = none → ∀ i, ¬ Given i log
  stored : ∀ incompleteHex, s.incompleteHex = some incompleteHex →
    ∃ raw, Extends contents witnesses (nativeModule crates multiSig) s incompleteHex raw ∧
      ∀ i, Witnessed witnesses raw i ↔ Given i log

variable {log : Log JsError Builder (Call (nativeModule crates multiSig)) Value}
  (laws : RawBuilderLaws crates.core crates.transactions contents witnesses)
include laws

theorem Tracks.toIncompleteHex {s : Builder} (hs : Tracks contents witnesses multiSig log s)
    (hinput : s.hasInput = true) {incompleteHex : Buffer}
    (h : s.toIncompleteHex (nativeModule crates multiSig) = .ok incompleteHex) :
    ∃ raw, Extends contents witnesses (nativeModule crates multiSig) s incompleteHex raw ∧
      ∀ i, Witnessed witnesses raw i ↔ Given i log := by
  unfold TransferTransactionBuilder.toIncompleteHex at h
  cases hstored : s.incompleteHex with
  | some stored =>
    rw [hstored] at h
    obtain rfl := Except.ok.inj h
    exact hs.stored stored hstored
  | none =>
    rw [hstored] at h
    obtain ⟨raw, rfl, hdecodes, hnone⟩ := built_decodes laws h
    refine ⟨raw, ⟨hdecodes, hinput, raw, h, rfl⟩, fun i => ?_⟩
    exact iff_of_false (not_witnessed_of_replicate hnone i) (hs.absent hstored i)

theorem Tracks.gives {s t : Builder} {c : Call (nativeModule crates multiSig)} {index : JsNumber}
    {v : Value} (hs : Tracks contents witnesses multiSig log s)
    (h : Step (nativeModule crates multiSig) s c (.ok v) t) (hc : c.index = some index) :
    Tracks contents witnesses multiSig (⟨s, c, .ok v⟩ :: log) t := by
  obtain ⟨incompleteHex, raw, k, witness, extended, hinput, hhex, hraw, rfl, hadd, rfl⟩ := h.gives hc
  obtain ⟨raw', hextends, hwitnessed⟩ := hs.toIncompleteHex laws hinput hhex
  obtain rfl : raw' = raw := ok_unique hextends.decoded hraw
  refine ⟨nofun, fun stored hstored => ?_⟩
  obtain rfl := Option.some.inj hstored
  refine ⟨extended, (hextends.addWitness laws hadd).1.setIncompleteHex _, fun i => ?_⟩
  rw [witnessed_addWitness laws hadd, hwitnessed, given_index rfl hc]

theorem Tracks.step {s t : Builder} {c : Call (nativeModule crates multiSig)}
    {r : Except JsError Value} (hs : Tracks contents witnesses multiSig log s)
    (h : Step (nativeModule crates multiSig) s c r t) :
    Tracks contents witnesses multiSig (⟨s, c, r⟩ :: log) t := by
  cases h with
  | addInput input _ _ => exact ⟨fun _ _ => given_addition ⟨rfl, rfl⟩, nofun⟩
  | addOutput output _ _ => exact ⟨fun _ _ => given_addition ⟨rfl, rfl⟩, nofun⟩
  | addViewKey viewKey _ => exact ⟨fun _ _ => given_addition ⟨rfl, rfl⟩, nofun⟩
  | signInput index keyPair incompleteHex updated hverify hhex hsign =>
    exact hs.gives laws (.signInput index keyPair incompleteHex updated hverify hhex hsign) rfl
  | addWitness index witness incompleteHex updated hindex hhex hadd =>
    exact hs.gives laws (.addWitness index witness incompleteHex updated hindex hhex hadd) rfl
  | kept hno =>
    have hother : ∀ i, Given i (⟨s, c, r⟩ :: log) ↔ Given i log := by
      intro i
      refine given_other fun hok => ?_
      obtain ⟨v, hv⟩ := (Entry.succeeded_iff _).mp hok
      exact hno v hv
    refine ⟨fun hnone i => ?_, fun stored hstored => ?_⟩
    · rw [hother]
      exact hs.absent hnone i
    · obtain ⟨raw, hextends, hwitnessed⟩ := hs.stored stored hstored
      exact ⟨raw, hextends, fun i => (hwitnessed i).trans (hother i).symm⟩
  | prepared incompleteHex hinput hhex _ =>
    obtain ⟨raw, hextends, hwitnessed⟩ := hs.toIncompleteHex laws hinput hhex
    refine ⟨nofun, fun stored hstored => ?_⟩
    obtain rfl := Option.some.inj hstored
    refine ⟨raw, hextends.setIncompleteHex _, fun i => (hwitnessed i).trans ?_⟩
    exact (given_other fun hok => by cases hok).symm

theorem run_tracks {options : Option TransferTransactionBuilderOptions} {s₀ s : Builder}
    (hnew : TransferTransactionBuilder.new options = .ok s₀)
    (run : Run (machine (nativeModule crates multiSig) runtime) s₀ log s) :
    Tracks contents witnesses multiSig log s := by
  refine run.invariant (Tracks contents witnesses multiSig) ?_
    fun _ s c _ hs => hs.step laws (Transfer.step s c)
  obtain ⟨_, rfl⟩ := TransferTransactionBuilder.new_eq_ok.mp hnew
  refine ⟨fun _ i hgiven => ?_, nofun⟩
  obtain ⟨newer, e, older, heq, -⟩ := hgiven
  exact List.append_ne_nil_of_right_ne_nil _ (List.cons_ne_nil _ _) heq.symm

end Tracks

/-- There is an input, and each was given a witness since the last addition. -/
def Complete (log : Log JsError Builder (Call native) Value) (s : Builder) : Prop :=
  s.hasInput = true ∧ ∀ i < s.inputs.length, Given i log

/-- `isCompleted` answers whether the transaction is complete. -/
theorem isCompleted_eq_ok
    (hcompleted : ∀ raw, crates.core.isCompleted raw = (witnesses raw).all Option.isSome)
    {log : Log JsError Builder (Call (nativeModule crates multiSig)) Value} {s : Builder}
    (hs : Tracks contents witnesses multiSig log s) :
    ∃ completed, s.isCompleted (nativeModule crates multiSig) = .ok completed ∧
      (completed = true ↔ Complete log s) := by
  cases hstored : s.incompleteHex with
  | none =>
    refine ⟨false, by rw [TransferTransactionBuilder.isCompleted, hstored], ?_⟩
    refine iff_of_false Bool.false_ne_true fun hcomplete => ?_
    have hpos : 0 < s.inputs.length := by
      have hne : s.inputs.length ≠ 0 := by
        simpa [TransferTransactionBuilder.hasInput] using hcomplete.1
      omega
    exact hs.absent hstored 0 (hcomplete.2 0 hpos)
  | some incompleteHex =>
    obtain ⟨raw, hextends, hwitnessed⟩ := hs.stored incompleteHex hstored
    refine ⟨crates.core.isCompleted raw, ?_, ?_⟩
    · rw [TransferTransactionBuilder.isCompleted, hstored]
      simp only [TransferTransactionBuilder.linearFee_eq]
      exact bind_eq_ok.mpr ⟨raw, hextends.decoded, rfl⟩
    · rw [hcompleted, all_witnessed_iff, hextends.witnesses_length, Complete,
        and_iff_right hextends.hasInput]
      exact forall₂_congr fun i _ => hwitnessed i

/-- What `toHex` does once the transaction is completed. -/
def completedHex (native : NativeModule) (runtime : Runtime) (b : Builder)
    (tendermintAddress : Option String) : Except JsError Buffer := do
  b.verify native
  let feeConfig ← parseFeeConfigForNative b.feeConfig
  native.transferTransaction.toHexLinearFee ⟨b.incompleteHex, feeConfig⟩
    (tendermintAddress.getD defaultTendermintAddress) (getRustFeaturesFromEnv runtime.nodeEnv)

/-- Past its earlier checks `toHex` looks at `isCompleted` alone. -/
theorem toHex_eq {s : Builder} {address : Option String} {completed : Bool}
    (haddress : owTendermintAddress runtime (address.getD defaultTendermintAddress) = none)
    (hinput : s.hasInput = true) (houtput : s.hasOutput = true)
    (hcompleted : s.isCompleted native = .ok completed) :
    toHex native runtime s address =
      if completed = true then completedHex native runtime s address
      else .error (.error "Transaction is not completed") := by
  have houtput' : s.verifyHasOutput = .ok () := by
    rw [TransferTransactionBuilder.verifyHasOutput, houtput]
    rfl
  unfold toHex
  simp only [haddress, ow_none, (s.verifyHasInput_eq_ok).mpr hinput, houtput', hcompleted]
  cases completed <;> rfl

/-- Over any run, `isCompleted` is true exactly when each input was given a witness
since the last addition, and the check of `toHex` passes exactly then. -/
theorem completion_tracks
    (laws : RawBuilderLaws crates.core crates.transactions contents witnesses)
    (hcompleted : ∀ raw, crates.core.isCompleted raw = (witnesses raw).all Option.isSome)
    {options : Option TransferTransactionBuilderOptions} {s₀ s : Builder}
    {log : Log JsError Builder (Call (nativeModule crates multiSig)) Value}
    (hnew : TransferTransactionBuilder.new options = .ok s₀)
    (run : Run (machine (nativeModule crates multiSig) runtime) s₀ log s) :
    (∃ completed, outcome (machine (nativeModule crates multiSig) runtime) s
        (.query .isCompleted) = .ok (.flag completed) ∧
      (completed = true ↔ Complete log s)) ∧
    ∀ address, owTendermintAddress runtime (address.getD defaultTendermintAddress) = none →
      s.hasInput = true → s.hasOutput = true →
      (Complete log s → toHex (nativeModule crates multiSig) runtime s address =
        completedHex (nativeModule crates multiSig) runtime s address) ∧
      (¬ Complete log s → toHex (nativeModule crates multiSig) runtime s address =
        .error (.error "Transaction is not completed")) := by
  obtain ⟨completed, hok, hiff⟩ := isCompleted_eq_ok hcompleted (run_tracks laws hnew run)
  refine ⟨⟨completed, ?_, hiff⟩, ?_⟩
  · simp [outcome, machine, answer, hok, Except.map]
  · intro address haddress hinput houtput
    rw [toHex_eq haddress hinput houtput hok]
    exact ⟨fun h => if_pos (hiff.mpr h), fun h => if_neg fun hdone => h (hiff.mp hdone)⟩

/-- One input, one output and a signature, then the given calls. -/
def Sample.signed (last : List (Call Crates.Sample.module)) :
    Log JsError Builder (Call Crates.Sample.module) Value × Builder :=
  Sample.run ([.addInput (Sample.input 7 1 1), .addOutput Sample.output,
    .signInput (.ofNat 0) (Crates.Sample.keyPair 7)] ++ last)

theorem completion_tracks_signInput :
    Complete (Sample.signed []).1 (Sample.signed []).2 ∧
      ¬ Complete (Sample.signed [.addOutput Sample.output]).1
        (Sample.signed [.addOutput Sample.output]).2 := by
  obtain ⟨⟨completed, hdone, hcomplete⟩, -⟩ := completion_tracks Crates.Sample.raw_builder_laws
    (fun _ => rfl) Sample.new_options (run_execute (machine Crates.Sample.module
      Native.Sample.runtime) Sample.start _ : Run _ _ (Sample.signed []).1 (Sample.signed []).2)
  obtain ⟨⟨completed', hundone, hincomplete⟩, -⟩ := completion_tracks Crates.Sample.raw_builder_laws
    (fun _ => rfl) Sample.new_options (run_execute (machine Crates.Sample.module
      Native.Sample.runtime) Sample.start _ : Run _ _ (Sample.signed [.addOutput Sample.output]).1
        (Sample.signed [.addOutput Sample.output]).2)
  have htrue : outcome (machine Crates.Sample.module Native.Sample.runtime) (Sample.signed []).2
      (.query .isCompleted) = .ok (.flag true) := by decide +kernel
  have hfalse : outcome (machine Crates.Sample.module Native.Sample.runtime)
      (Sample.signed [.addOutput Sample.output]).2 (.query .isCompleted) = .ok (.flag false) := by
    decide +kernel
  obtain rfl : completed = true := Value.flag.inj (ok_unique hdone htrue)
  obtain rfl : completed' = false := Value.flag.inj (ok_unique hundone hfalse)
  exact ⟨hcomplete.mp rfl, fun h => Bool.false_ne_true (hincomplete.mpr h)⟩

end ThalerNodelib.Transfer
