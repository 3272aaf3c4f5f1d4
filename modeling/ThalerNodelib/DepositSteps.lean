import ThalerNodelib.Deposit

/-!
What one call of the builder of deposit transactions does, from a state whose
cache is coherent.
-/
namespace ThalerNodelib.Deposit

open Js Native Network KeyPairs ThalerNodelib.Types Runs

variable {native : NativeModule} {runtime : Runtime}

theorem build_of_hasInput {s : Builder native} (h : s.hasInput = true) :
    (cell native).build s = native.stakingTransaction.buildRawDepositTransaction s.rawTxOptions := by
  simp [cell, h]

theorem build_of_no_input {s : Builder native} (h : s.hasInput = false) :
    (cell native).build s = .error (.error "Builder has no input") := by
  simp [cell, h]

theorem ensurePrepared_forces : (cell native).Forces (ensurePrepared native) where
  full s rawTx _ := by
    have hprepared : ((cell native).fill s rawTx).isRawTxPrepared = true := rfl
    simp [ensurePrepared, hprepared]
  empty_ok s rawTx h := by
    have hprepared : ((cell native).clear s).isRawTxPrepared = false := rfl
    cases hinput : s.hasInput with
    | false =>
      rw [build_of_no_input hinput] at h
      cases h
    | true =>
      rw [build_of_hasInput hinput] at h
      have hverify : ((cell native).clear s).verifyTxIsSignable = .ok () := by
        change s.verifyHasInput = .ok ()
        simp [DepositTransactionBuilder.verifyHasInput, hinput]
      have hoptions : ((cell native).clear s).rawTxOptions = s.rawTxOptions := rfl
      simp [ensurePrepared, prepareRawTx, hprepared, hverify, hoptions, h]
      rfl
  empty_error s e h := by
    have hprepared : ((cell native).clear s).isRawTxPrepared = false := rfl
    cases hinput : s.hasInput with
    | false =>
      rw [build_of_no_input hinput] at h
      have hverify : ((cell native).clear s).verifyTxIsSignable = .error e := by
        change s.verifyHasInput = .error e
        simpa [DepositTransactionBuilder.verifyHasInput, hinput] using h
      simp [ensurePrepared, hprepared, hverify]
    | true =>
      rw [build_of_hasInput hinput] at h
      have hverify : ((cell native).clear s).verifyTxIsSignable = .ok () := by
        change s.verifyHasInput = .ok ()
        simp [DepositTransactionBuilder.verifyHasInput, hinput]
      have hoptions : ((cell native).clear s).rawTxOptions = s.rawTxOptions := rfl
      simp [ensurePrepared, prepareRawTx, hprepared, hverify, hoptions, h]

theorem ensurePrepared_run {s : Builder native} (hs : (cell native).Coherent s) :
    (ensurePrepared native).run s = match (cell native).build s with
      | .ok rawTx => .ok () (s.setPreparedRawTx rawTx)
      | .error e => .error e s := by
  rw [ensurePrepared_forces.run _ hs]
  cases (cell native).build s <;> rfl

/-- `toUnsignedHex` checks for an input first, which the guard would do too. -/
theorem toUnsignedHex_run {s : Builder native} (hs : (cell native).Coherent s) :
    (toUnsignedHex native).run s = match (cell native).build s with
      | .ok rawTx => .ok (some rawTx.unsignedRawTx) (s.setPreparedRawTx rawTx)
      | .error e => .error e s := by
  cases hinput : s.hasInput with
  | false =>
    have hverify : s.verifyHasInput = .error (.error "Builder has no input") := by
      simp [DepositTransactionBuilder.verifyHasInput, hinput]
    simp [toUnsignedHex, hverify, build_of_no_input hinput]
  | true =>
    have hverify : s.verifyHasInput = .ok () := by
      simp [DepositTransactionBuilder.verifyHasInput, hinput]
    have hprepare := ensurePrepared_run hs
    cases hprepared : s.isRawTxPrepared with
    | true =>
      simp [ensurePrepared, hprepared] at hprepare
      cases hb : (cell native).build s with
      | error e => simp [hb] at hprepare
      | ok rawTx =>
        have hfull : s = s.setPreparedRawTx rawTx := by simpa [hb] using hprepare
        have hraw : s.unsignedRawTx = some rawTx.unsignedRawTx := by
          rw [hfull]
          rfl
        simp [toUnsignedHex, hverify, hprepared, hraw, ← hfull]
    | false =>
      have hsignable : s.verifyTxIsSignable = .ok () := hverify
      simp [ensurePrepared, hprepared, hsignable] at hprepare
      simp only [toUnsignedHex, EStateM.run_bind, EStateM.run_get, run_call, hverify, hprepared]
      simp only [Bool.not_false, if_true, EStateM.run_bind, hprepare]
      cases (cell native).build s <;> rfl

theorem verifyInputIndex_ofNat {s : Builder native} {i : ℕ} (hi : i < s.inputsLength) :
    s.verifyInputIndex (.ofNat i) = .ok () := by
  have hle : ¬ s.inputsLength ≤ i := Nat.not_le.mpr hi
  rw [DepositTransactionBuilder.verifyInputIndex, JsNumber.ofNat_lt_ofNat, JsNumber.ofNat_le_ofNat]
  simp only [Nat.not_lt_zero, hle, decide_false, Bool.or_self]
  rfl

theorem assignWitness_run (s : Builder native) (index : JsNumber) (witness : Buffer) :
    (∃ i, index.arrayIndex = some i ∧ i < s.inputsLength ∧
      (assignWitness native index witness).run s = .ok () (s.setWitness i witness)) ∨
    ∃ e, (assignWitness native index witness).run s = .error e s := by
  unfold assignWitness
  cases hindex : index.arrayIndex with
  | none => exact Or.inr ⟨_, rfl⟩
  | some i =>
    by_cases hlt : i < s.inputsLength
    · exact Or.inl ⟨i, rfl, hlt, by simp [hlt]⟩
    · exact Or.inr ⟨_, by simp [hlt]; rfl⟩

variable (runtime) in
theorem toHex_run {s : Builder native} (hs : (cell native).Coherent s)
    (address : Option String) :
    (toHex native runtime address).run s =
      match ow (owTendermintAddress runtime (address.getD defaultTendermintAddress))
        "tendermintAddress", (cell native).build s with
      | .error e, _ => .error e s
      | .ok _, .error e => .error e s
      | .ok _, .ok rawTx =>
        if s.isCompleted then
          match native.stakingTransaction.depositTransactionToHex (some rawTx.unsignedRawTx)
            (s.inputs.map WitnessedPrevOutputPointer.witness)
            (address.getD defaultTendermintAddress) (getRustFeaturesFromEnv runtime.nodeEnv) with
          | .ok hex => .ok hex (s.setPreparedRawTx rawTx)
          | .error e => .error e (s.setPreparedRawTx rawTx)
        else .error (.error "Transaction builder is not completed") (s.setPreparedRawTx rawTx) := by
  rw [toHex]
  simp only [EStateM.run_bind, run_call]
  cases ow (owTendermintAddress runtime (address.getD defaultTendermintAddress))
    "tendermintAddress" with
  | error e => rfl
  | ok _ =>
    simp only [ensurePrepared_run hs]
    cases (cell native).build s with
    | error e => rfl
    | ok rawTx =>
      have hraw : (s.setPreparedRawTx rawTx).unsignedRawTx = some rawTx.unsignedRawTx := rfl
      have hinputs : (s.setPreparedRawTx rawTx).inputs = s.inputs := rfl
      have hcompleted : (s.setPreparedRawTx rawTx).isCompleted = s.isCompleted := rfl
      cases hdone : s.isCompleted with
      | false => simp [hcompleted, hdone]
      | true =>
        cases hnative : native.stakingTransaction.depositTransactionToHex
          (some rawTx.unsignedRawTx) (s.inputs.map WitnessedPrevOutputPointer.witness)
          (address.getD defaultTendermintAddress) (getRustFeaturesFromEnv runtime.nodeEnv) <;>
          simp [hcompleted, hdone, hraw, hinputs, hnative]

def Call.isAddInput : Call native → Bool
  | .addInput _ => true
  | _ => false

def Call.isSigning : Call native → Bool
  | .signInput _ _ => true
  | .addWitness _ _ => true
  | _ => false

/-- The ways a call changes a builder whose cache is coherent. -/
inductive Step (native : NativeModule) (s : Builder native) :
    Call native → Except JsError Value → Builder native → Prop
  | addInput (prevOutputPointer : PrevOutputPointer) :
      owPrevOutputPointer prevOutputPointer = none →
      Step native s (.addInput prevOutputPointer) (.ok .this)
        (s.clearCachedData.pushInput prevOutputPointer)
  | signInput (index : JsNumber) (keyPair : KeyPair native) (i : ℕ) (rawTx : RawTx)
      (witness : Buffer) :
      index.arrayIndex = some i → i < s.inputsLength → (cell native).build s = .ok rawTx →
      native.signer.schnorrSignTxId (bufferFromHex rawTx.txId) keyPair.toObject = .ok witness →
      Step native s (.signInput index keyPair) (.ok .this)
        ((s.setPreparedRawTx rawTx).setWitness i witness)
  | addWitness (index : JsNumber) (i : ℕ) (witness : Buffer) :
      index.arrayIndex = some i → i < s.inputsLength →
      Step native s (.addWitness index witness) (.ok .this) (s.setWitness i witness)
  | kept {c : Call native} {r : Except JsError Value} :
      (∀ v, r = .ok v → c.isAddInput = false ∧ c.isSigning = false) → Step native s c r s
  | filled {c : Call native} {r : Except JsError Value} (rawTx : RawTx) :
      (∀ v, r = .ok v → c.isAddInput = false ∧ c.isSigning = false) →
      (cell native).build s = .ok rawTx → Step native s c r (s.setPreparedRawTx rawTx)

theorem step_throws {s : Builder native} {c : Call native} {e : JsError}
    (h : (machine native runtime c).run s = .error e s) :
    Step native s c (outcome (machine native runtime) s c) (next (machine native runtime) s c) :=
  of_run_error h (.kept (by simp))

theorem step_throws_filled {s : Builder native} {c : Call native} {e : JsError} {rawTx : RawTx}
    (hb : (cell native).build s = .ok rawTx)
    (h : (machine native runtime c).run s = .error e (s.setPreparedRawTx rawTx)) :
    Step native s c (outcome (machine native runtime) s c) (next (machine native runtime) s c) :=
  of_run_error h (.filled rawTx (by simp) hb)

/-- Every call from a coherent state is one of the listed changes. -/
theorem step {s : Builder native} (hs : (cell native).Coherent s) (c : Call native) :
    Step native s c (outcome (machine native runtime) s c)
      (next (machine native runtime) s c) := by
  cases c with
  | addInput prevOutputPointer =>
    cases how : ow (owPrevOutputPointer prevOutputPointer) "prevOutputPointer" with
    | error e => exact step_throws (e := e) (by simp [machine, addInput, how])
    | ok _ =>
      exact of_run_ok (by simp [machine, addInput, how])
        (.addInput prevOutputPointer ((ow_eq_ok _ _).mp how))
  | signInput index keyPair =>
    cases how : ow (owNumber index) "index" with
    | error e => exact step_throws (e := e) (by simp [machine, signInput, how])
    | ok _ =>
      have hprepare := ensurePrepared_run hs
      cases hb : (cell native).build s with
      | error e =>
        exact step_throws (e := e) (by simp [machine, signInput, how, hprepare, hb])
      | ok rawTx =>
        have hid : (s.setPreparedRawTx rawTx).innertTxId = some rawTx.txId := rfl
        cases hverify : (s.setPreparedRawTx rawTx).verifyInputIndex index with
        | error e =>
          exact step_throws_filled (e := e) hb
            (by simp [machine, signInput, how, hprepare, hb, hverify])
        | ok _ =>
          cases hsign : native.signer.schnorrSignTxId (bufferFromHex rawTx.txId)
              keyPair.toObject with
          | error e =>
            exact step_throws_filled (e := e) hb
              (by simp [machine, signInput, how, hprepare, hb, hverify, hid, hsign])
          | ok witness =>
            rcases assignWitness_run (s.setPreparedRawTx rawTx) index witness with
              ⟨i, hi, hlt, hassign⟩ | ⟨e, hassign⟩
            · exact of_run_ok
                (by simp [machine, signInput, how, hprepare, hb, hverify, hid, hsign, hassign])
                (.signInput index keyPair i rawTx witness hi hlt hb hsign)
            · exact step_throws_filled (e := e) hb
                (by simp [machine, signInput, how, hprepare, hb, hverify, hid, hsign, hassign])
  | addWitness index witness =>
    cases how : ow (owNumber index) "index" with
    | error e => exact step_throws (e := e) (by simp [machine, addWitness, how])
    | ok _ =>
      cases hsignable : s.verifyTxIsSignable with
      | error e => exact step_throws (e := e) (by simp [machine, addWitness, how, hsignable])
      | ok _ =>
        cases hverify : s.verifyInputIndex index with
        | error e =>
          exact step_throws (e := e) (by simp [machine, addWitness, how, hsignable, hverify])
        | ok _ =>
          rcases assignWitness_run s index witness with ⟨i, hi, hlt, hassign⟩ | ⟨e, hassign⟩
          · exact of_run_ok (by simp [machine, addWitness, how, hsignable, hverify, hassign])
              (.addWitness index i witness hi hlt)
          · exact step_throws (e := e)
              (by simp [machine, addWitness, how, hsignable, hverify, hassign])
  | txId =>
    have hprepare := ensurePrepared_run hs
    cases hb : (cell native).build s with
    | error e => exact step_throws (e := e) (by simp [machine, txId, hprepare, hb])
    | ok rawTx =>
      exact of_run_ok (by simp [machine, txId, hprepare, hb]; rfl)
        (.filled rawTx (by simp [Call.isAddInput, Call.isSigning]) hb)
  | toUnsignedHex =>
    have hrun := toUnsignedHex_run hs
    cases hb : (cell native).build s with
    | error e => exact step_throws (e := e) (by simp [machine, hrun, hb])
    | ok rawTx =>
      exact of_run_ok (by simp [machine, hrun, hb]; rfl)
        (.filled rawTx (by simp [Call.isAddInput, Call.isSigning]) hb)
  | toHex address =>
    have hrun := toHex_run runtime hs address
    cases how : ow (owTendermintAddress runtime (address.getD defaultTendermintAddress))
        "tendermintAddress" with
    | error e => exact step_throws (e := e) (by simp [machine, hrun, how])
    | ok _ =>
      cases hb : (cell native).build s with
      | error e => exact step_throws (e := e) (by simp [machine, hrun, how, hb])
      | ok rawTx =>
        cases hdone : s.isCompleted with
        | false => exact step_throws_filled hb (by simp [machine, hrun, how, hb, hdone]; rfl)
        | true =>
          cases hnative : native.stakingTransaction.depositTransactionToHex
              (some rawTx.unsignedRawTx) (s.inputs.map WitnessedPrevOutputPointer.witness)
              (address.getD defaultTendermintAddress) (getRustFeaturesFromEnv runtime.nodeEnv) with
          | error e =>
            exact step_throws_filled (e := e) hb
              (by simp [machine, hrun, how, hb, hdone, hnative])
          | ok hex =>
            exact of_run_ok (by simp [machine, hrun, how, hb, hdone, hnative]; rfl)
              (.filled rawTx (by simp [Call.isAddInput, Call.isSigning]) hb)
  | query q =>
    cases hq : answer native s q with
    | error e => exact step_throws (e := e) (by simp [machine, hq])
    | ok v =>
      exact of_run_ok (v := v) (by simp [machine, hq])
        (.kept (by simp [Call.isAddInput, Call.isSigning]))

theorem setWitness_getElem? (s : Builder native) (i j : ℕ) (witness : Buffer) :
    (s.setWitness i witness).inputs[j]? =
      if i = j then (s.inputs[j]?).map fun input => { input with witness := some witness }
      else s.inputs[j]? := by
  simp [DepositTransactionBuilder.setWitness, List.getElem?_modify]
  by_cases hij : i = j <;> simp [hij]

theorem setWitness_pointers (s : Builder native) (i : ℕ) (witness : Buffer) :
    (s.setWitness i witness).inputs.map WitnessedPrevOutputPointer.prevOutputPointer =
      s.inputs.map WitnessedPrevOutputPointer.prevOutputPointer := by
  apply List.ext_getElem?
  intro j
  rw [List.getElem?_map, List.getElem?_map, setWitness_getElem?]
  by_cases hij : i = j
  · simp [hij, Function.comp_def]
  · simp [hij]

theorem setWitness_length (s : Builder native) (i : ℕ) (witness : Buffer) :
    (s.setWitness i witness).inputsLength = s.inputsLength := by
  simp [DepositTransactionBuilder.inputsLength, DepositTransactionBuilder.setWitness]

/-- The raw transaction does not depend on the witnesses. -/
theorem setWitness_build (s : Builder native) (i : ℕ) (witness : Buffer) :
    (cell native).build (s.setWitness i witness) = (cell native).build s := by
  have hinput : (s.setWitness i witness).hasInput = s.hasInput := by
    simp only [DepositTransactionBuilder.hasInput]
    rw [show (s.setWitness i witness).inputs.length = s.inputs.length from
      setWitness_length s i witness]
  have hoptions : (s.setWitness i witness).rawTxOptions = s.rawTxOptions := by
    simp only [DepositTransactionBuilder.rawTxOptions, setWitness_pointers]
    rfl
  simp [cell, hinput, hoptions]

theorem setWitness_coherent {s : Builder native} (hs : (cell native).Coherent s) (i : ℕ)
    (witness : Buffer) : (cell native).Coherent (s.setWitness i witness) := by
  rcases hs with hempty | ⟨rawTx, hb, hfull⟩
  · left
    calc
      (cell native).clear (s.setWitness i witness)
        = ((cell native).clear s).setWitness i witness := rfl
      _ = s.setWitness i witness := by rw [hempty]
  · right
    refine ⟨rawTx, by rw [setWitness_build, hb], ?_⟩
    calc
      (cell native).fill (s.setWitness i witness) rawTx
        = ((cell native).fill s rawTx).setWitness i witness := rfl
      _ = s.setWitness i witness := by rw [hfull]

/-- The step of a call, by what it returned or threw. -/
theorem step_of_outcome {s : Builder native} (hs : (cell native).Coherent s) {c : Call native}
    {r : Except JsError Value} (h : outcome (machine native runtime) s c = r) :
    Step native s c r (next (machine native runtime) s c) := by
  rw [← h]
  exact step hs c

theorem Step.coherent {s t : Builder native} {c : Call native} {r : Except JsError Value}
    (hs : (cell native).Coherent s) (h : Step native s c r t) : (cell native).Coherent t := by
  cases h with
  | addInput prevOutputPointer _ => exact Or.inl rfl
  | signInput index keyPair i rawTx witness _ _ hb _ =>
    exact setWitness_coherent ((cell native).coherent_fill hb) i witness
  | addWitness index i witness _ _ => exact setWitness_coherent hs i witness
  | kept _ => exact hs
  | filled rawTx _ hb => exact (cell native).coherent_fill hb

theorem new_coherent {options : DepositTransactionBuilderOptions} {s : Builder native}
    (h : DepositTransactionBuilder.new native options = .ok s) : (cell native).Coherent s := by
  obtain ⟨_, rfl⟩ := DepositTransactionBuilder.new_eq_ok.mp h
  exact Or.inl rfl

theorem run_coherent {s₀ s : Builder native} {log : Log JsError (Builder native) (Call native) Value}
    (hs₀ : (cell native).Coherent s₀) (run : Run (machine native runtime) s₀ log s) :
    (cell native).Coherent s :=
  run.state_invariant (cell native).Coherent hs₀ fun _ c hs => (step hs c).coherent hs

end ThalerNodelib.Deposit
