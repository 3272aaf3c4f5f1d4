import ThalerNodelib.WithdrawUnbondedSteps

/-!
When the stored witness of the builder of withdraw unbonded transactions was
made. The witness survives `addOutput` and `addViewKey`, which drop only the
cached raw transaction, so it is fresh exactly in the runs that never add to a
signed builder.
-/
namespace ThalerNodelib.WithdrawUnbonded

open Js Native Network KeyPairs ThalerNodelib.Types Runs

variable (native : NativeModule) (runtime : Runtime)

/-- A successful `addOutput` or `addViewKey`. -/
def IsAddition {native : NativeModule} (e : Entry JsError Builder (Call native) Value) : Prop :=
  e.succeeded = true ∧ e.call.isAddition = true

instance {native : NativeModule} (e : Entry JsError Builder (Call native) Value) :
    Decidable (IsAddition e) := inferInstanceAs (Decidable (_ ∧ _))

/-- A successful `addWitness` of the witness, or a successful `sign` whose
signature of the transaction that `s` builds is the witness. -/
def Supplies (s : Builder) (witness : Buffer)
    (e : Entry JsError Builder (Call native) Value) : Prop :=
  e.succeeded = true ∧ (e.call = .addWitness witness ∨
    ∃ keyPair rawTx, e.call = .sign keyPair ∧ (cell native).build s = .ok rawTx ∧
      native.stakingTransaction.withdrawUnbondedTransactionToWitness
        (some rawTx.unsignedRawTx) keyPair.toObject = .ok witness)

/-- The stored witness was supplied for the current transaction after the last
addition, and what an export emits is that transaction and that witness. -/
structure WitnessFresh (log : Log JsError Builder (Call native) Value) (s : Builder) : Prop where
  witness : ∀ witness, s.witness = some witness → Since (Supplies native s witness) IsAddition log
  toSignedPlainHex : ∀ hex, outcome (machine native runtime) s .toSignedPlainHex = .ok hex →
    ∃ rawTx witness signedRawTx, (cell native).build s = .ok rawTx ∧ s.witness = some witness ∧
      native.stakingTransaction.withdrawUnbondedTransactionToSignedPlainHex
        (some rawTx.unsignedRawTx) (some witness) = .ok signedRawTx ∧
      hex = .buffer (bufferFromHex "00" ++ signedRawTx)
  toHex : ∀ address hex, outcome (machine native runtime) s (.toHex address) = .ok hex →
    ∃ rawTx witness obfuscated, (cell native).build s = .ok rawTx ∧ s.witness = some witness ∧
      native.stakingTransaction.withdrawUnbondedTransactionToObfuscatedHex
        (some rawTx.unsignedRawTx) (some witness) (address.getD defaultTendermintAddress)
        (getRustFeaturesFromEnv runtime.nodeEnv) = .ok obfuscated ∧
      hex = .buffer obfuscated

/-- The invariant of the runs that add only while unsigned. -/
structure Signed (log : Log JsError Builder (Call native) Value) (s : Builder) : Prop where
  coherent : (cell native).Coherent s
  prepared : ∀ witness, s.witness = some witness → s.isRawTxPrepared = true
  supplied : ∀ witness, s.witness = some witness → Since (Supplies native s witness) IsAddition log

variable {native runtime}

theorem Supplies.congr {s t : Builder} {witness : Buffer}
    (h : (cell native).build s = (cell native).build t)
    (e : Entry JsError Builder (Call native) Value) (hs : Supplies native s witness e) :
    Supplies native t witness e := by
  obtain ⟨hok, hadd | ⟨keyPair, rawTx, hcall, hb, hw⟩⟩ := hs
  · exact ⟨hok, Or.inl hadd⟩
  · exact ⟨hok, Or.inr ⟨keyPair, rawTx, hcall, h ▸ hb, hw⟩⟩

theorem not_isAddition {s : Builder} {c : Call native} {r : Except JsError Value}
    (h : ∀ v, r = .ok v → c.isAddition = false ∧ c.isSigning = false) :
    ¬ IsAddition (⟨s, c, r⟩ : Entry JsError Builder (Call native) Value) := by
  intro hadded
  obtain ⟨hok, hadd⟩ := hadded
  obtain ⟨v, hv⟩ := (Entry.succeeded_iff _).mp hok
  have hno := (h v hv).1
  rw [hadd] at hno
  cases hno

theorem Signed.of_unsigned {log : Log JsError Builder (Call native) Value} {s : Builder}
    (hs : (cell native).Coherent s) (h : s.witness = none) : Signed native log s := by
  refine ⟨hs, ?_, ?_⟩
  · intro witness hw
    rw [h] at hw
    cases hw
  · intro witness hw
    rw [h] at hw
    cases hw

theorem witness_none {s : Builder} (h : s.isSigned = false) : s.witness = none := by
  simpa [WithdrawUnbondedTransactionBuilder.isSigned] using h

theorem Signed.step {log : Log JsError Builder (Call native) Value} {s t : Builder}
    {c : Call native} {r : Except JsError Value} (hs : Signed native log s)
    (h : Step native s c r t) (hunsigned : IsAddition ⟨s, c, r⟩ → s.isSigned = false) :
    Signed native (⟨s, c, r⟩ :: log) t := by
  have hcoherent := h.coherent hs.coherent
  cases h with
  | addOutput output _ _ _ =>
    exact .of_unsigned hcoherent (witness_none (hunsigned ⟨rfl, rfl⟩))
  | addViewKey viewKey _ =>
    exact .of_unsigned hcoherent (witness_none (hunsigned ⟨rfl, rfl⟩))
  | sign keyPair rawTx witness hb hsign =>
    refine ⟨hcoherent, fun _ _ => rfl, ?_⟩
    intro w hw
    obtain rfl : witness = w := Option.some.inj hw
    exact (since_cons _ _).mpr (Or.inl ⟨rfl, Or.inr ⟨keyPair, rawTx, rfl, hb, hsign⟩⟩)
  | addWitness rawTx witness hb _ =>
    refine ⟨hcoherent, fun _ _ => rfl, ?_⟩
    intro w hw
    obtain rfl : witness = w := Option.some.inj hw
    exact (since_cons _ _).mpr (Or.inl ⟨rfl, Or.inl rfl⟩)
  | kept hno =>
    refine ⟨hcoherent, hs.prepared, ?_⟩
    intro w hw
    exact (since_cons _ _).mpr (Or.inr ⟨not_isAddition hno, hs.supplied w hw⟩)
  | filled rawTx hno hb =>
    refine ⟨hcoherent, fun _ _ => rfl, ?_⟩
    intro w hw
    have hold := (hs.supplied w hw).mono (Supplies.congr rfl)
    exact (since_cons _ _).mpr (Or.inr ⟨not_isAddition hno, hold⟩)

theorem toSignedPlainHex_emits {s : Builder} {hex : Value}
    (h : outcome (machine native runtime) s .toSignedPlainHex = .ok hex) :
    ∃ witness signedRawTx, s.witness = some witness ∧
      native.stakingTransaction.withdrawUnbondedTransactionToSignedPlainHex
        s.unsignedRawTx (some witness) = .ok signedRawTx ∧
      hex = .buffer (bufferFromHex "00" ++ signedRawTx) := by
  have hrun := toSignedPlainHex_run native s
  cases hw : s.witness with
  | none => simp [outcome, machine, hrun, hw] at h
  | some witness =>
    cases hnative : native.stakingTransaction.withdrawUnbondedTransactionToSignedPlainHex
        s.unsignedRawTx (some witness) with
    | error e => simp [outcome, machine, hrun, hw, hnative] at h
    | ok signedRawTx =>
      refine ⟨witness, signedRawTx, rfl, hnative, ?_⟩
      simpa [outcome, machine, hrun, hw, hnative] using h.symm

theorem toHex_emits {s : Builder} (hs : (cell native).Coherent s) {address : Option String}
    {hex : Value} (h : outcome (machine native runtime) s (.toHex address) = .ok hex) :
    ∃ rawTx witness obfuscated, (cell native).build s = .ok rawTx ∧ s.witness = some witness ∧
      native.stakingTransaction.withdrawUnbondedTransactionToObfuscatedHex
        (some rawTx.unsignedRawTx) (some witness) (address.getD defaultTendermintAddress)
        (getRustFeaturesFromEnv runtime.nodeEnv) = .ok obfuscated ∧
      hex = .buffer obfuscated := by
  have hrun := toHex_run runtime hs address
  cases how : ow (owTendermintAddress runtime (address.getD defaultTendermintAddress))
      "tendermintAddress" with
  | error e => simp [outcome, machine, hrun, how] at h
  | ok _ =>
    cases hb : (cell native).build s with
    | error e => simp [outcome, machine, hrun, how, hb] at h
    | ok rawTx =>
      cases hw : s.witness with
      | none => simp [outcome, machine, hrun, how, hb, hw] at h
      | some witness =>
        cases hnative : native.stakingTransaction.withdrawUnbondedTransactionToObfuscatedHex
            (some rawTx.unsignedRawTx) (some witness) (address.getD defaultTendermintAddress)
            (getRustFeaturesFromEnv runtime.nodeEnv) with
        | error e => simp [outcome, machine, hrun, how, hb, hw, hnative] at h
        | ok obfuscated =>
          refine ⟨rawTx, witness, obfuscated, rfl, rfl, hnative, ?_⟩
          simpa [outcome, machine, hrun, how, hb, hw, hnative] using h.symm

theorem Signed.fresh {log : Log JsError Builder (Call native) Value} {s : Builder}
    (hs : Signed native log s) : WitnessFresh native runtime log s where
  witness := hs.supplied
  toSignedPlainHex hex h := by
    obtain ⟨witness, signedRawTx, hw, hnative, hhex⟩ := toSignedPlainHex_emits h
    obtain ⟨rawTx, hb, hraw⟩ := prepared_build hs.coherent (hs.prepared witness hw)
    rw [hraw] at hnative
    exact ⟨rawTx, witness, signedRawTx, hb, hw, hnative, hhex⟩
  toHex _ _ h := toHex_emits hs.coherent h

theorem Signed.run {s₀ s : Builder} {log : Log JsError Builder (Call native) Value}
    (hs₀ : Signed native [] s₀) (run : Run (machine native runtime) s₀ log s)
    (hunsigned : ∀ e ∈ log, IsAddition e → e.before.isSigned = false) : Signed native log s := by
  induction run with
  | start => exact hs₀
  | @call log s c run ih =>
    have hs := ih fun e he => hunsigned e (List.mem_cons_of_mem _ he)
    exact hs.step (WithdrawUnbonded.step hs.coherent c)
      (hunsigned (entry (machine native runtime) s c) (List.mem_cons_self ..))

/-- An addition leaves the witness where it is. -/
theorem addition_keeps_witness {s t : Builder} {c : Call native} {r : Except JsError Value}
    (h : Step native s c r t) (hadd : IsAddition ⟨s, c, r⟩) : t.witness = s.witness := by
  cases h with
  | addOutput output _ _ _ => rfl
  | addViewKey viewKey _ => rfl
  | sign keyPair rawTx witness _ _ => cases hadd.2
  | addWitness rawTx witness _ _ => cases hadd.2
  | kept _ => rfl
  | filled rawTx _ _ => rfl

theorem not_supplies_of_isAddition {s : Builder} {witness : Buffer}
    {e : Entry JsError Builder (Call native) Value} (h : IsAddition e) :
    ¬ Supplies native s witness e := by
  intro hsupplies
  rcases hsupplies with ⟨-, hcall | ⟨keyPair, rawTx, hcall, -⟩⟩
  · have hadd := h.2
    rw [hcall] at hadd
    cases hadd
  · have hadd := h.2
    rw [hcall] at hadd
    cases hadd

theorem new_unsigned {options : WithdrawUnbondedTransactionBuilderOptions} {s : Builder}
    (h : WithdrawUnbondedTransactionBuilder.new options = .ok s) : s.witness = none := by
  obtain ⟨_, rfl⟩ := WithdrawUnbondedTransactionBuilder.new_eq_ok.mp h
  rfl

/-- Adding to a signed builder leaves a witness that was supplied before. -/
theorem not_fresh_after_addition {s : Builder} {c : Call native}
    (hs : (cell native).Coherent s)
    (hadd : IsAddition (entry (machine native runtime) s c)) (hsigned : s.isSigned = true)
    (log : Log JsError Builder (Call native) Value) :
    ¬ WitnessFresh native runtime (entry (machine native runtime) s c :: log)
      (next (machine native runtime) s c) := by
  intro hfresh
  have hstep : Step native s c (outcome (machine native runtime) s c)
      (next (machine native runtime) s c) := step hs c
  have hkept := addition_keeps_witness hstep hadd
  obtain ⟨witness, hw⟩ := Option.isSome_iff_exists.mp hsigned
  rcases (since_cons _ _).mp (hfresh.witness witness (hkept.trans hw)) with hsupplies | ⟨hno, -⟩
  · exact not_supplies_of_isAddition hadd hsupplies
  · exact hno hadd

/-- Every state of a run has a fresh witness exactly when each addition of the
run was made to a builder that was not signed. -/
theorem witness_fresh_iff {options : WithdrawUnbondedTransactionBuilderOptions}
    {s₀ s : Builder} {log : Log JsError Builder (Call native) Value}
    (hnew : WithdrawUnbondedTransactionBuilder.new options = .ok s₀)
    (run : Run (machine native runtime) s₀ log s) :
    Throughout (machine native runtime) s₀ log (WitnessFresh native runtime) ↔
    ∀ e ∈ log, IsAddition e → e.before.isSigned = false := by
  have hs₀ : (cell native).Coherent s₀ := new_coherent hnew
  constructor
  · intro hfresh e he hadd
    by_contra hsigned
    rw [Bool.not_eq_false] at hsigned
    obtain ⟨older, hsuffix, hrun, heq⟩ := run.mem_entry he
    rw [heq] at hsuffix hadd
    have hcoherent := run_coherent hs₀ hrun
    exact not_fresh_after_addition hcoherent hadd hsigned older
      (hfresh _ _ hsuffix (.call e.call hrun))
  · intro hunsigned older t hsuffix hrun
    have hsub : ∀ e ∈ older, IsAddition e → e.before.isSigned = false :=
      fun e he => hunsigned e (hsuffix.mem he)
    exact (Signed.run (.of_unsigned hs₀ (new_unsigned hnew)) hrun hsub).fresh

theorem witness_fresh_after_sign :
    Throughout (machine Native.Sample.module Native.Sample.runtime) Sample.start
      (Sample.run [.txId]).1 (WitnessFresh Native.Sample.module Native.Sample.runtime) :=
  (witness_fresh_iff Sample.new_options (run_execute _ _ _)).mpr (by decide +kernel)

/-- A view key added to a signed builder: the builder stays signed, and the
export carries the signature of the transaction without the view key. -/
theorem witness_stale_after_addViewKey :
    WithdrawUnbondedTransactionBuilder.new Sample.options = .ok Sample.start ∧
    Run (machine Native.Sample.module Native.Sample.runtime) Sample.start
      (Sample.run [.addViewKey [1]]).1 (Sample.run [.addViewKey [1]]).2 ∧
    ¬ WitnessFresh Native.Sample.module Native.Sample.runtime
      (Sample.run [.addViewKey [1]]).1 (Sample.run [.addViewKey [1]]).2 ∧
    outcome (machine Native.Sample.module Native.Sample.runtime)
      (Sample.run [.addViewKey [1]]).2 (.toHex none) =
        .ok (.buffer ([1, 1] ++ Native.Sample.witness [1, 0])) := by
  refine ⟨Sample.new_options, run_execute _ _ _, ?_, by decide +kernel⟩
  have hs := run_coherent (new_coherent Sample.new_options)
    (run_execute (machine Native.Sample.module Native.Sample.runtime) Sample.start
      [.addOutput Sample.output, .sign Sample.keyPair])
  exact not_fresh_after_addition (c := .addViewKey [1]) hs (by decide +kernel)
    (by decide +kernel) (Sample.run []).1

end ThalerNodelib.WithdrawUnbonded
