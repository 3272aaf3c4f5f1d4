import ThalerNodelib.WithdrawUnbonded

/-!
What one call of the builder does. From a state whose cache is coherent the
guard fills the cache or throws what building the raw transaction throws, so
each method is determined by the other fields; `Step` lists the ways a call can
change them.
-/
namespace ThalerNodelib.WithdrawUnbonded

open Js Native Network KeyPairs ThalerNodelib.Types Runs

variable {native : NativeModule} {runtime : Runtime}

theorem build_of_hasOutput {s : Builder} (h : s.hasOutput = true) :
    (cell native).build s =
      native.stakingTransaction.buildRawWithdrawUnbondedTransaction s.rawTxOptions := by
  simp [cell, h]

theorem build_of_no_output {s : Builder} (h : s.hasOutput = false) :
    (cell native).build s = .error (.error "Builder has no output") := by
  simp [cell, h]

/-- The guard fills the cache of the raw transaction, and only an empty one. -/
theorem ensurePrepared_forces : (cell native).Forces (ensurePrepared native) where
  full s rawTx _ := by simp [ensurePrepared]
  empty_ok s rawTx h := by
    cases houtput : s.hasOutput with
    | false =>
      rw [build_of_no_output houtput] at h
      cases h
    | true =>
      rw [build_of_hasOutput houtput] at h
      simp [ensurePrepared, prepareRawTx, houtput, h]
      rfl
  empty_error s e h := by
    cases houtput : s.hasOutput with
    | false =>
      rw [build_of_no_output houtput] at h
      cases h
      simp [ensurePrepared, houtput]
    | true =>
      rw [build_of_hasOutput houtput] at h
      simp [ensurePrepared, prepareRawTx, houtput, h]

theorem ensurePrepared_run {s : Builder} (hs : (cell native).Coherent s) :
    (ensurePrepared native).run s = match (cell native).build s with
      | .ok rawTx => .ok () (s.setPreparedRawTx rawTx)
      | .error e => .error e s := by
  rw [ensurePrepared_forces.run _ hs]
  cases (cell native).build s <;> rfl

theorem txId_run {s : Builder} (hs : (cell native).Coherent s) :
    (txId native).run s = match (cell native).build s with
      | .ok rawTx => .ok (some rawTx.txId) (s.setPreparedRawTx rawTx)
      | .error e => .error e s := by
  rw [txId, EStateM.run_bind, ensurePrepared_run hs]
  cases (cell native).build s <;> rfl

theorem toUnsignedHex_run {s : Builder} (hs : (cell native).Coherent s) :
    (toUnsignedHex native).run s = match (cell native).build s with
      | .ok rawTx => .ok (bufferFromHex "0002" ++ rawTx.unsignedRawTx) (s.setPreparedRawTx rawTx)
      | .error e => .error e s := by
  rw [toUnsignedHex, EStateM.run_bind, ensurePrepared_run hs]
  cases (cell native).build s <;> rfl

theorem estimateFee_run {s : Builder} (hs : (cell native).Coherent s) :
    (estimateFee native).run s = match (cell native).build s with
      | .ok rawTx =>
        match parseFeeConfigForNative s.feeConfig >>=
          native.stakingTransaction.estimateWithdrawUnbondedTransactionFee
            (some rawTx.unsignedRawTx) with
        | .ok fee => .ok fee (s.setPreparedRawTx rawTx)
        | .error e => .error e (s.setPreparedRawTx rawTx)
      | .error e => .error e s := by
  rw [estimateFee, EStateM.run_bind, ensurePrepared_run hs]
  cases (cell native).build s with
  | error e => rfl
  | ok rawTx =>
    have hfee : (s.setPreparedRawTx rawTx).feeConfig = s.feeConfig := rfl
    simp only [EStateM.run_bind, EStateM.run_get, run_call, hfee]
    cases parseFeeConfigForNative s.feeConfig with
    | error e => rfl
    | ok feeConfig =>
      have hraw : (s.setPreparedRawTx rawTx).unsignedRawTx = some rawTx.unsignedRawTx := rfl
      cases hnative : native.stakingTransaction.estimateWithdrawUnbondedTransactionFee
        (some rawTx.unsignedRawTx) feeConfig <;> simp [hraw, hnative, bind, Except.bind]

theorem sign_run {s : Builder} (hs : (cell native).Coherent s) (keyPair : KeyPair native) :
    (sign native keyPair).run s = match (cell native).build s with
      | .ok rawTx =>
        match native.stakingTransaction.withdrawUnbondedTransactionToWitness
          (some rawTx.unsignedRawTx) keyPair.toObject with
        | .ok witness => .ok () { s.setPreparedRawTx rawTx with witness := some witness }
        | .error e => .error e (s.setPreparedRawTx rawTx)
      | .error e => .error e s := by
  rw [sign, EStateM.run_bind, ensurePrepared_run hs]
  cases (cell native).build s with
  | error e => rfl
  | ok rawTx =>
    have hraw : (s.setPreparedRawTx rawTx).unsignedRawTx = some rawTx.unsignedRawTx := rfl
    simp only [EStateM.run_bind, EStateM.run_get, run_call, hraw]
    cases native.stakingTransaction.withdrawUnbondedTransactionToWitness
      (some rawTx.unsignedRawTx) keyPair.toObject <;> rfl

theorem addWitness_run {s : Builder} (hs : (cell native).Coherent s) (witness : Buffer) :
    (addWitness native witness).run s =
      match ow (owStakedStateOpWitness witness) "witness", (cell native).build s with
      | .error e, _ => .error e s
      | .ok _, .ok rawTx => .ok () { s.setPreparedRawTx rawTx with witness := some witness }
      | .ok _, .error e => .error e s := by
  rw [addWitness, EStateM.run_bind, run_call]
  cases ow (owStakedStateOpWitness witness) "witness" with
  | error e => rfl
  | ok _ =>
    simp only [EStateM.run_bind, ensurePrepared_run hs]
    cases (cell native).build s <;> rfl

variable (runtime) in
theorem toHex_run {s : Builder} (hs : (cell native).Coherent s) (address : Option String) :
    (toHex native runtime address).run s =
      match ow (owTendermintAddress runtime (address.getD defaultTendermintAddress))
        "tendermintAddress", (cell native).build s with
      | .error e, _ => .error e s
      | .ok _, .error e => .error e s
      | .ok _, .ok rawTx =>
        match s.witness with
        | none => .error (.error "Builder is not signed") (s.setPreparedRawTx rawTx)
        | some witness =>
          match native.stakingTransaction.withdrawUnbondedTransactionToObfuscatedHex
            (some rawTx.unsignedRawTx) (some witness) (address.getD defaultTendermintAddress)
            (getRustFeaturesFromEnv runtime.nodeEnv) with
          | .ok hex => .ok hex (s.setPreparedRawTx rawTx)
          | .error e => .error e (s.setPreparedRawTx rawTx) := by
  rw [toHex]
  simp only [EStateM.run_bind, run_call]
  cases ow (owTendermintAddress runtime (address.getD defaultTendermintAddress))
    "tendermintAddress" with
  | error e => rfl
  | ok _ =>
    simp only [ensurePrepared_run hs]
    cases (cell native).build s with
    | error e => rfl
    | ok rawTx =>
      have hraw : (s.setPreparedRawTx rawTx).unsignedRawTx = some rawTx.unsignedRawTx := rfl
      have hwitness : (s.setPreparedRawTx rawTx).witness = s.witness := rfl
      have hsigned : (s.setPreparedRawTx rawTx).isSigned = s.witness.isSome := rfl
      simp only [EStateM.run_get, hsigned]
      cases hw : s.witness with
      | none => rfl
      | some witness =>
        cases hnative : native.stakingTransaction.withdrawUnbondedTransactionToObfuscatedHex
          (some rawTx.unsignedRawTx) (some witness) (address.getD defaultTendermintAddress)
          (getRustFeaturesFromEnv runtime.nodeEnv) <;> simp [hraw, hwitness, hw, hnative]

variable (native) in
theorem toSignedPlainHex_run (s : Builder) :
    (toSignedPlainHex native).run s =
      match s.witness with
      | none => .error (.error "Builder is not signed") s
      | some witness =>
        match native.stakingTransaction.withdrawUnbondedTransactionToSignedPlainHex
          s.unsignedRawTx (some witness) with
        | .ok signedRawTx => .ok (bufferFromHex "00" ++ signedRawTx) s
        | .error e => .error e s := by
  rw [toSignedPlainHex]
  have hsigned : s.isSigned = s.witness.isSome := rfl
  simp only [EStateM.run_bind, EStateM.run_get, hsigned]
  cases hw : s.witness with
  | none => rfl
  | some witness =>
    cases hnative : native.stakingTransaction.withdrawUnbondedTransactionToSignedPlainHex
      s.unsignedRawTx (some witness) <;> simp [hw, hnative]

variable (native) in
/-- The checks that `addOutput` makes before it changes anything. -/
def outputGuard (s : Builder) (output : Output) : Except JsError Unit :=
  match owNative (owWithdrawUnbondedOutput native output) "output" with
  | .error e => .error e
  | .ok _ =>
    if s.outputs.length = maxOutputSize then
      .error (.error "Exceeded maximum number of outputs")
    else
      match s.isTransferAddressInNetwork native output.address with
      | .error e => .error e
      | .ok false => .error (.error "Address does not belongs to the builder network")
      | .ok true => .ok ()

theorem outputGuard_eq_ok (s : Builder) (output : Output) :
    outputGuard native s output = .ok () ↔
      owWithdrawUnbondedOutput native output = .ok none ∧ s.outputs.length ≠ maxOutputSize ∧
        s.isTransferAddressInNetwork native output.address = .ok true := by
  rw [← owNative_eq_ok _ "output", outputGuard]
  cases owNative (owWithdrawUnbondedOutput native output) "output" with
  | error e => simp
  | ok _ =>
    by_cases hlen : s.outputs.length = maxOutputSize
    · simp [hlen]
    · cases s.isTransferAddressInNetwork native output.address with
      | error e => simp [hlen]
      | ok inNetwork => cases inNetwork <;> simp [hlen]

variable (native) in
theorem addOutput_run (s : Builder) (output : Output) :
    (addOutput native output).run s = match outputGuard native s output with
      | .ok _ => .ok () { s.clearPreparedRawTx with outputs := s.outputs ++ [output] }
      | .error e => .error e s := by
  unfold outputGuard
  cases how : owNative (owWithdrawUnbondedOutput native output) "output" with
  | error e => simp [addOutput, how]
  | ok _ =>
    by_cases hlen : s.outputs.length = maxOutputSize
    · simp [addOutput, how, hlen]
    · cases haddr : s.isTransferAddressInNetwork native output.address with
      | error e => simp [addOutput, how, hlen, haddr]
      | ok inNetwork =>
        cases inNetwork <;> simp [addOutput, how, hlen, haddr]
        rfl

variable (native) in
theorem addViewKey_run (s : Builder) (viewKey : Buffer) :
    (addViewKey native viewKey).run s = match owNative (owViewKey native viewKey) "viewKey" with
      | .ok _ => .ok () { s.clearPreparedRawTx with viewKeys := s.viewKeys ++ [viewKey] }
      | .error e => .error e s := by
  cases how : owNative (owViewKey native viewKey) "viewKey" with
  | error e => simp [addViewKey, how]
  | ok _ =>
    simp [addViewKey, how]
    rfl

/-- The calls that change the transaction. -/
def Call.isAddition : Call native → Bool
  | .addOutput _ => true
  | .addViewKey _ => true
  | _ => false

/-- The calls that store a witness. -/
def Call.isSigning : Call native → Bool
  | .sign _ => true
  | .addWitness _ => true
  | _ => false

/-- The ways a call changes a builder whose cache is coherent. -/
inductive Step (native : NativeModule) (s : Builder) :
    Call native → Except JsError Value → Builder → Prop
  | addOutput (output : Output) :
      owWithdrawUnbondedOutput native output = .ok none → s.outputs.length ≠ maxOutputSize →
      s.isTransferAddressInNetwork native output.address = .ok true →
      Step native s (.addOutput output) (.ok .this)
        { s.clearPreparedRawTx with outputs := s.outputs ++ [output] }
  | addViewKey (viewKey : Buffer) :
      owViewKey native viewKey = .ok none →
      Step native s (.addViewKey viewKey) (.ok .this)
        { s.clearPreparedRawTx with viewKeys := s.viewKeys ++ [viewKey] }
  | sign (keyPair : KeyPair native) (rawTx : RawTx) (witness : Buffer) :
      (cell native).build s = .ok rawTx →
      native.stakingTransaction.withdrawUnbondedTransactionToWitness
        (some rawTx.unsignedRawTx) keyPair.toObject = .ok witness →
      Step native s (.sign keyPair) (.ok .this)
        { s.setPreparedRawTx rawTx with witness := some witness }
  | addWitness (rawTx : RawTx) (witness : Buffer) :
      (cell native).build s = .ok rawTx → owStakedStateOpWitness witness = none →
      Step native s (.addWitness witness) (.ok .this)
        { s.setPreparedRawTx rawTx with witness := some witness }
  | kept {c : Call native} {r : Except JsError Value} :
      (∀ v, r = .ok v → c.isAddition = false ∧ c.isSigning = false) → Step native s c r s
  | filled {c : Call native} {r : Except JsError Value} (rawTx : RawTx) :
      (∀ v, r = .ok v → c.isAddition = false ∧ c.isSigning = false) →
      (cell native).build s = .ok rawTx → Step native s c r (s.setPreparedRawTx rawTx)

theorem step_throws {s : Builder} {c : Call native} {e : JsError}
    (h : (machine native runtime c).run s = .error e s) :
    Step native s c (outcome (machine native runtime) s c) (next (machine native runtime) s c) :=
  of_run_error h (.kept (by simp))

theorem step_throws_filled {s : Builder} {c : Call native} {e : JsError} {rawTx : RawTx}
    (hb : (cell native).build s = .ok rawTx)
    (h : (machine native runtime c).run s = .error e (s.setPreparedRawTx rawTx)) :
    Step native s c (outcome (machine native runtime) s c) (next (machine native runtime) s c) :=
  of_run_error h (.filled _ (by simp) hb)

/-- Every call from a coherent state is one of the listed changes. -/
theorem step {s : Builder} (hs : (cell native).Coherent s) (c : Call native) :
    Step native s c (outcome (machine native runtime) s c)
      (next (machine native runtime) s c) := by
  cases c with
  | addOutput output =>
    have hrun := addOutput_run native s output
    cases hguard : outputGuard native s output with
    | error e => exact step_throws (e := e) (by simp [machine, hrun, hguard])
    | ok _ =>
      obtain ⟨haccepted, hlen, hnet⟩ := (outputGuard_eq_ok s output).mp hguard
      exact of_run_ok (by simp [machine, hrun, hguard]) (.addOutput output haccepted hlen hnet)
  | addViewKey viewKey =>
    have hrun := addViewKey_run native s viewKey
    cases how : owNative (owViewKey native viewKey) "viewKey" with
    | error e => exact step_throws (e := e) (by simp [machine, hrun, how])
    | ok _ =>
      exact of_run_ok (by simp [machine, hrun, how])
        (.addViewKey viewKey ((owNative_eq_ok _ _).mp how))
  | sign keyPair =>
    have hrun := sign_run hs keyPair
    cases hb : (cell native).build s with
    | error e => exact step_throws (e := e) (by simp [machine, hrun, hb])
    | ok rawTx =>
      cases hw : native.stakingTransaction.withdrawUnbondedTransactionToWitness
          (some rawTx.unsignedRawTx) keyPair.toObject with
      | error e => exact step_throws_filled (e := e) hb (by simp [machine, hrun, hb, hw])
      | ok witness =>
        exact of_run_ok (by simp [machine, hrun, hb, hw]) (.sign keyPair rawTx witness hb hw)
  | addWitness witness =>
    have hrun := addWitness_run hs witness
    cases how : ow (owStakedStateOpWitness witness) "witness" with
    | error e => exact step_throws (e := e) (by simp [machine, hrun, how])
    | ok _ =>
      cases hb : (cell native).build s with
      | error e => exact step_throws (e := e) (by simp [machine, hrun, hb, how])
      | ok rawTx =>
        exact of_run_ok (by simp [machine, hrun, hb, how])
          (.addWitness rawTx witness hb ((ow_eq_ok _ _).mp how))
  | txId =>
    have hrun := txId_run hs
    cases hb : (cell native).build s with
    | error e => exact step_throws (e := e) (by simp [machine, hrun, hb])
    | ok rawTx =>
      exact of_run_ok (by simp [machine, hrun, hb]; rfl)
        (.filled rawTx (by simp [Call.isAddition, Call.isSigning]) hb)
  | estimateFee =>
    have hrun := estimateFee_run hs
    cases hb : (cell native).build s with
    | error e => exact step_throws (e := e) (by simp [machine, hrun, hb])
    | ok rawTx =>
      cases hfee : parseFeeConfigForNative s.feeConfig >>=
          native.stakingTransaction.estimateWithdrawUnbondedTransactionFee
            (some rawTx.unsignedRawTx) with
      | error e => exact step_throws_filled (e := e) hb (by simp [machine, hrun, hb, hfee])
      | ok fee =>
        exact of_run_ok (by simp [machine, hrun, hb, hfee]; rfl)
          (.filled rawTx (by simp [Call.isAddition, Call.isSigning]) hb)
  | toUnsignedHex =>
    have hrun := toUnsignedHex_run hs
    cases hb : (cell native).build s with
    | error e => exact step_throws (e := e) (by simp [machine, hrun, hb])
    | ok rawTx =>
      exact of_run_ok (by simp [machine, hrun, hb]; rfl)
        (.filled rawTx (by simp [Call.isAddition, Call.isSigning]) hb)
  | toSignedPlainHex =>
    have hrun := toSignedPlainHex_run native s
    cases hw : s.witness with
    | none => exact step_throws (by simp [machine, hrun, hw]; rfl)
    | some witness =>
      cases hnative : native.stakingTransaction.withdrawUnbondedTransactionToSignedPlainHex
          s.unsignedRawTx (some witness) with
      | error e => exact step_throws (e := e) (by simp [machine, hrun, hw, hnative])
      | ok signedRawTx =>
        exact of_run_ok (by simp [machine, hrun, hw, hnative]; rfl)
          (.kept (by simp [Call.isAddition, Call.isSigning]))
  | toHex address =>
    have hrun := toHex_run runtime hs address
    cases how : ow (owTendermintAddress runtime (address.getD defaultTendermintAddress))
        "tendermintAddress" with
    | error e => exact step_throws (e := e) (by simp [machine, hrun, how])
    | ok _ =>
      cases hb : (cell native).build s with
      | error e => exact step_throws (e := e) (by simp [machine, hrun, how, hb])
      | ok rawTx =>
        cases hw : s.witness with
        | none => exact step_throws_filled hb (by simp [machine, hrun, how, hb, hw]; rfl)
        | some witness =>
          cases hnative : native.stakingTransaction.withdrawUnbondedTransactionToObfuscatedHex
              (some rawTx.unsignedRawTx) (some witness) (address.getD defaultTendermintAddress)
              (getRustFeaturesFromEnv runtime.nodeEnv) with
          | error e =>
            exact step_throws_filled (e := e) hb (by simp [machine, hrun, how, hb, hw, hnative])
          | ok hex =>
            exact of_run_ok (by simp [machine, hrun, how, hb, hw, hnative]; rfl)
              (.filled rawTx (by simp [Call.isAddition, Call.isSigning]) hb)
  | query q =>
    cases hq : answer s q with
    | error e => exact step_throws (e := e) (by simp [machine, hq])
    | ok v =>
      exact of_run_ok (v := v) (by simp [machine, hq])
        (.kept (by simp [Call.isAddition, Call.isSigning]))

/-- The step of a call, by what it returned or threw. -/
theorem step_of_outcome {s : Builder} (hs : (cell native).Coherent s) {c : Call native}
    {r : Except JsError Value} (h : outcome (machine native runtime) s c = r) :
    Step native s c r (next (machine native runtime) s c) := by
  rw [← h]
  exact step hs c

theorem Step.coherent {s t : Builder} {c : Call native} {r : Except JsError Value}
    (hs : (cell native).Coherent s) (h : Step native s c r t) : (cell native).Coherent t := by
  cases h with
  | addOutput output _ _ _ => exact Or.inl rfl
  | addViewKey viewKey _ => exact Or.inl rfl
  | sign keyPair rawTx witness hb _ => exact Or.inr ⟨rawTx, hb, rfl⟩
  | addWitness rawTx witness hb _ => exact Or.inr ⟨rawTx, hb, rfl⟩
  | kept _ => exact hs
  | filled rawTx _ hb => exact (cell native).coherent_fill hb

/-- In a coherent state whose cache is full, it holds what building gives. -/
theorem prepared_build {s : Builder} (hs : (cell native).Coherent s)
    (h : s.isRawTxPrepared = true) :
    ∃ rawTx, (cell native).build s = .ok rawTx ∧ s.unsignedRawTx = some rawTx.unsignedRawTx := by
  rcases hs with hempty | ⟨rawTx, hb, hfull⟩
  · rw [← hempty] at h
    cases h
  · exact ⟨rawTx, hb, by rw [← hfull]; rfl⟩

theorem new_coherent {options : WithdrawUnbondedTransactionBuilderOptions} {s : Builder}
    (h : WithdrawUnbondedTransactionBuilder.new options = .ok s) :
    (cell native).Coherent s := by
  obtain ⟨_, rfl⟩ := WithdrawUnbondedTransactionBuilder.new_eq_ok.mp h
  exact Or.inl rfl

/-- In every reachable state the cached raw transaction and id are both
undefined, or what building from the current fields gives. -/
theorem run_coherent {s₀ s : Builder} {log : Log JsError Builder (Call native) Value}
    (hs₀ : (cell native).Coherent s₀) (run : Run (machine native runtime) s₀ log s) :
    (cell native).Coherent s :=
  run.state_invariant (cell native).Coherent hs₀ fun _ c hs => (step hs c).coherent hs

/-! A builder on the sample native module, and its runs. -/
namespace Sample

def options : WithdrawUnbondedTransactionBuilderOptions := ⟨.ofNat 0, none⟩

theorem options_accepted : owWithdrawUnbondedTransactionBuilderOptions options = none := by
  decide +kernel

def start : Builder := .empty options options_accepted

theorem new_options : WithdrawUnbondedTransactionBuilder.new options = .ok start :=
  WithdrawUnbondedTransactionBuilder.new_eq_ok.mpr ⟨options_accepted, rfl⟩

def output : Output := ⟨"cro", .ofNat 1, some ⟨1, by decide⟩⟩

/-- Adds an output, signs, then makes the last calls. -/
def run (last : List (Call Native.Sample.module)) :
    Log JsError Builder (Call Native.Sample.module) Value × Builder :=
  execute (machine Native.Sample.module Native.Sample.runtime) start
    ([.addOutput output, .sign Sample.keyPair] ++ last)

end Sample

end ThalerNodelib.WithdrawUnbonded
