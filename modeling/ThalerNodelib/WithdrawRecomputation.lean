import ThalerNodelib.WithdrawUnbondedSteps

/-!
The builder of withdraw unbonded transactions against one without a cache: what
a method answers depends on the fields other than the cache, so the queries of
any reachable state answer as those of a new builder that was given the same
outputs and view keys. The one method that reads the cache without filling it
is `toSignedPlainHex`.
-/
namespace ThalerNodelib.WithdrawUnbonded

open Js Native Network KeyPairs ThalerNodelib.Types Runs

variable {native : NativeModule} {runtime : Runtime}

/-- What a call shows: its outcome, and the fields other than the cache. -/
def shown (r : EStateM.Result JsError Builder Value) : Except JsError Value × Builder :=
  match r with
  | .ok v t => (.ok v, t.clearPreparedRawTx)
  | .error e t => (.error e, t.clearPreparedRawTx)

theorem shown_run (s : Builder) (c : Call native) :
    shown ((machine native runtime c).run s) =
      (outcome (machine native runtime) s c,
        (next (machine native runtime) s c).clearPreparedRawTx) := by
  cases h : (machine native runtime c).run s <;> simp [shown, outcome, next, h]

theorem shown_clear {s : Builder} (hs : (cell native).Coherent s) (c : Call native)
    (hc : ∀ witness, c = .toSignedPlainHex → s.witness = some witness →
      s.isRawTxPrepared = false) :
    shown ((machine native runtime c).run s) =
      shown ((machine native runtime c).run s.clearPreparedRawTx) := by
  have hclear : (cell native).Coherent s.clearPreparedRawTx := (cell native).coherent_clear s
  have hbuild : (cell native).build s.clearPreparedRawTx = (cell native).build s := rfl
  cases c with
  | addOutput output =>
    have hguard : outputGuard native s.clearPreparedRawTx output = outputGuard native s output := rfl
    simp only [machine, EStateM.run_bind, addOutput_run, hguard]
    cases outputGuard native s output <;> rfl
  | addViewKey viewKey =>
    simp only [machine, EStateM.run_bind, addViewKey_run]
    cases owNative (owViewKey native viewKey) "viewKey" <;> rfl
  | sign keyPair =>
    simp only [machine, EStateM.run_bind, sign_run hs, sign_run hclear, hbuild]
    cases (cell native).build s with
    | error e => rfl
    | ok rawTx =>
      cases hw : native.stakingTransaction.withdrawUnbondedTransactionToWitness
        (some rawTx.unsignedRawTx) keyPair.toObject <;> simp only [hw] <;> rfl
  | addWitness witness =>
    simp only [machine, EStateM.run_bind, addWitness_run hs, addWitness_run hclear, hbuild]
    cases ow (owStakedStateOpWitness witness) "witness" with
    | error e => rfl
    | ok _ => cases (cell native).build s <;> rfl
  | txId =>
    simp only [machine, EStateM.run_bind, txId_run hs, txId_run hclear, hbuild]
    cases (cell native).build s <;> rfl
  | estimateFee =>
    simp only [machine, EStateM.run_bind, estimateFee_run hs, estimateFee_run hclear, hbuild]
    cases (cell native).build s with
    | error e => rfl
    | ok rawTx =>
      have hfee : s.clearPreparedRawTx.feeConfig = s.feeConfig := rfl
      simp only [hfee]
      cases parseFeeConfigForNative s.feeConfig >>=
        native.stakingTransaction.estimateWithdrawUnbondedTransactionFee
          (some rawTx.unsignedRawTx) <;> rfl
  | toUnsignedHex =>
    simp only [machine, EStateM.run_bind, toUnsignedHex_run hs, toUnsignedHex_run hclear, hbuild]
    cases (cell native).build s <;> rfl
  | toSignedPlainHex =>
    simp only [machine, EStateM.run_bind, toSignedPlainHex_run]
    have hwitness : s.clearPreparedRawTx.witness = s.witness := rfl
    cases hw : s.witness with
    | none => simp only [hwitness, hw]; rfl
    | some witness =>
      have hraw : s.unsignedRawTx = none := by
        simpa [WithdrawUnbondedTransactionBuilder.isRawTxPrepared] using hc witness rfl hw
      have hraw' : s.clearPreparedRawTx.unsignedRawTx = none := rfl
      simp only [hwitness, hw, hraw, hraw']
      cases native.stakingTransaction.withdrawUnbondedTransactionToSignedPlainHex none
        (some witness) <;> rfl
  | toHex address =>
    simp only [machine, EStateM.run_bind, toHex_run runtime hs, toHex_run runtime hclear, hbuild]
    have hwitness : s.clearPreparedRawTx.witness = s.witness := rfl
    simp only [hwitness]
    cases ow (owTendermintAddress runtime (address.getD defaultTendermintAddress))
      "tendermintAddress" with
    | error e => rfl
    | ok _ =>
      cases (cell native).build s with
      | error e => rfl
      | ok rawTx =>
        cases s.witness with
        | none => rfl
        | some witness =>
          cases native.stakingTransaction.withdrawUnbondedTransactionToObfuscatedHex
            (some rawTx.unsignedRawTx) (some witness) (address.getD defaultTendermintAddress)
            (getRustFeaturesFromEnv runtime.nodeEnv) <;> rfl
  | query q =>
    have hq : answer s.clearPreparedRawTx q = answer s q := by cases q <;> rfl
    simp only [machine, EStateM.run_bind, EStateM.run_get, run_call, hq]
    cases answer s q <;> rfl

/-- Builders that differ in the cache only answer alike, and go on to differ in
the cache only. -/
theorem same_step {s t : Builder} (hs : (cell native).Coherent s) (ht : (cell native).Coherent t)
    (h : (cell native).Same s t) (c : Call native)
    (hc : c = .toSignedPlainHex → s.isSigned = true → s.isRawTxPrepared = t.isRawTxPrepared) :
    outcome (machine native runtime) s c = outcome (machine native runtime) t c ∧
      (cell native).Same (next (machine native runtime) s c)
        (next (machine native runtime) t c) := by
  have hclear : s.clearPreparedRawTx = t.clearPreparedRawTx := h
  have hwitness : s.witness = t.witness := by
    change s.clearPreparedRawTx.witness = t.clearPreparedRawTx.witness
    rw [hclear]
  suffices hshown : shown ((machine native runtime c).run s) =
      shown ((machine native runtime c).run t) by
    rw [shown_run, shown_run] at hshown
    exact ⟨congrArg Prod.fst hshown, congrArg Prod.snd hshown⟩
  by_cases hprepared : c = .toSignedPlainHex ∧ s.isSigned = true ∧ s.isRawTxPrepared = true
  · obtain ⟨rfl, hsigned, hs'⟩ := hprepared
    obtain ⟨rawTx, hb, hraw⟩ := prepared_build hs hs'
    obtain ⟨rawTx', hb', hraw'⟩ := prepared_build ht ((hc rfl hsigned).symm.trans hs')
    have hraws : rawTx = rawTx' := by
      rw [h.build_eq, hb'] at hb
      exact (Except.ok.inj hb).symm
    simp only [machine, EStateM.run_bind, toSignedPlainHex_run, hraw, hraw', ← hraws, ← hwitness]
    cases hw : s.witness with
    | none => simp [shown, hclear]
    | some witness =>
      cases hnative : native.stakingTransaction.withdrawUnbondedTransactionToSignedPlainHex
        (some rawTx.unsignedRawTx) (some witness) <;> simp [shown, hclear, hnative]
  · have hempty : ∀ witness, c = .toSignedPlainHex → s.witness = some witness →
        s.isRawTxPrepared = false := by
      intro witness hcall hw
      have hsigned : s.isSigned = true := Option.isSome_iff_exists.mpr ⟨witness, hw⟩
      rw [← Bool.not_eq_true]
      exact fun hp => hprepared ⟨hcall, hsigned, hp⟩
    have hempty' : ∀ witness, c = .toSignedPlainHex → t.witness = some witness →
        t.isRawTxPrepared = false := by
      intro witness hcall hw
      have hsw : s.witness = some witness := hwitness.trans hw
      have hsigned : s.isSigned = true := Option.isSome_iff_exists.mpr ⟨witness, hsw⟩
      rw [← hc hcall hsigned]
      exact hempty witness hcall hsw
    rw [shown_clear hs c hempty, shown_clear ht c hempty', hclear]

/-- The output that a call adds, if it succeeds. -/
def Call.output : Call native → Option Output
  | .addOutput output => some output
  | _ => none

/-- The view key that a call adds, if it succeeds. -/
def Call.viewKey : Call native → Option Buffer
  | .addViewKey viewKey => some viewKey
  | _ => none

/-- What every reachable builder keeps of its history. -/
structure Replay (native : NativeModule) (s₀ : Builder)
    (log : Log JsError Builder (Call native) Value) (s : Builder) : Prop where
  coherent : (cell native).Coherent s
  network : s.network = s₀.network
  nonce : s.nonce = s₀.nonce
  outputs : s.outputs = accepted Call.output log
  viewKeys : s.viewKeys = accepted Call.viewKey log
  outputs_length : s.outputs.length ≤ maxOutputSize
  outputs_accepted : ∀ output ∈ s.outputs, owWithdrawUnbondedOutput native output = .ok none ∧
    s.isTransferAddressInNetwork native output.address = .ok true
  viewKeys_accepted : ∀ viewKey ∈ s.viewKeys, owViewKey native viewKey = .ok none

theorem output_of_not_addition (c : Call native) (h : c.isAddition = false) : c.output = none := by
  cases c <;> first | rfl | cases h

theorem viewKey_of_not_addition (c : Call native) (h : c.isAddition = false) :
    c.viewKey = none := by
  cases c <;> first | rfl | cases h

theorem not_addition {s : Builder} {c : Call native} {r : Except JsError Value}
    (h : ∀ v, r = .ok v → c.isAddition = false ∧ c.isSigning = false) :
    (⟨s, c, r⟩ : Entry JsError Builder (Call native) Value).succeeded = true →
      c.isAddition = false := by
  intro hok
  obtain ⟨v, hv⟩ := (Entry.succeeded_iff _).mp hok
  exact (h v hv).1

theorem Replay.step {s₀ s t : Builder} {log : Log JsError Builder (Call native) Value}
    {c : Call native} {r : Except JsError Value} (hs : Replay native s₀ log s)
    (h : Step native s c r t) : Replay native s₀ (⟨s, c, r⟩ :: log) t := by
  have hcoherent := h.coherent hs.coherent
  cases h with
  | addOutput output haccepted hlen hnet =>
    refine ⟨hcoherent, hs.network, hs.nonce, ?_, ?_, ?_, ?_, hs.viewKeys_accepted⟩
    · exact (congrArg (· ++ [output]) hs.outputs).trans (accepted_some (by rfl) (by rfl) log).symm
    · exact hs.viewKeys.trans (accepted_none (fun _ => by rfl) log).symm
    · have hlt := hs.outputs_length
      simp only [List.length_append, List.length_cons, List.length_nil]
      omega
    · intro o ho
      rcases List.mem_append.mp ho with hold | hnew
      · exact hs.outputs_accepted o hold
      · obtain rfl := List.mem_singleton.mp hnew
        exact ⟨haccepted, hnet⟩
  | addViewKey viewKey haccepted =>
    refine ⟨hcoherent, hs.network, hs.nonce, ?_, ?_, hs.outputs_length, hs.outputs_accepted, ?_⟩
    · exact hs.outputs.trans (accepted_none (fun _ => by rfl) log).symm
    · exact (congrArg (· ++ [viewKey]) hs.viewKeys).trans (accepted_some (by rfl) (by rfl) log).symm
    · intro k hk
      rcases List.mem_append.mp hk with hold | hnew
      · exact hs.viewKeys_accepted k hold
      · obtain rfl := List.mem_singleton.mp hnew
        exact haccepted
  | sign keyPair rawTx witness _ _ =>
    refine ⟨hcoherent, hs.network, hs.nonce, ?_, ?_, hs.outputs_length, hs.outputs_accepted,
      hs.viewKeys_accepted⟩
    · exact hs.outputs.trans (accepted_none (fun _ => by rfl) log).symm
    · exact hs.viewKeys.trans (accepted_none (fun _ => by rfl) log).symm
  | addWitness rawTx witness _ _ =>
    refine ⟨hcoherent, hs.network, hs.nonce, ?_, ?_, hs.outputs_length, hs.outputs_accepted,
      hs.viewKeys_accepted⟩
    · exact hs.outputs.trans (accepted_none (fun _ => by rfl) log).symm
    · exact hs.viewKeys.trans (accepted_none (fun _ => by rfl) log).symm
  | kept hno =>
    refine { hs with
      outputs := ?_
      viewKeys := ?_ }
    · exact hs.outputs.trans
        (accepted_none (fun hok => output_of_not_addition _ (not_addition (s := s) hno hok)) log).symm
    · exact hs.viewKeys.trans
        (accepted_none (fun hok => viewKey_of_not_addition _ (not_addition (s := s) hno hok)) log).symm
  | filled rawTx hno _ =>
    refine ⟨hcoherent, hs.network, hs.nonce, ?_, ?_, hs.outputs_length, hs.outputs_accepted,
      hs.viewKeys_accepted⟩
    · exact hs.outputs.trans
        (accepted_none (fun hok => output_of_not_addition _ (not_addition (s := s) hno hok)) log).symm
    · exact hs.viewKeys.trans
        (accepted_none (fun hok => viewKey_of_not_addition _ (not_addition (s := s) hno hok)) log).symm

theorem Replay.start {options : WithdrawUnbondedTransactionBuilderOptions} {s₀ : Builder}
    (h : WithdrawUnbondedTransactionBuilder.new options = .ok s₀) : Replay native s₀ [] s₀ := by
  have hcoherent : (cell native).Coherent s₀ := new_coherent h
  obtain ⟨_, rfl⟩ := WithdrawUnbondedTransactionBuilder.new_eq_ok.mp h
  exact ⟨hcoherent, rfl, rfl, rfl, rfl, Nat.zero_le _,
    fun output h => (List.not_mem_nil h).elim, fun viewKey h => (List.not_mem_nil h).elim⟩

theorem Replay.run {s₀ s : Builder} {log : Log JsError Builder (Call native) Value}
    (hs₀ : Replay native s₀ [] s₀) (run : Run (machine native runtime) s₀ log s) :
    Replay native s₀ log s :=
  run.invariant (Replay native s₀) hs₀ fun _ _ c _ hs =>
    hs.step (WithdrawUnbonded.step hs.coherent c)

/-- The three queries that compute from the raw transaction. -/
def Call.isRecomputed : Call native → Bool
  | .txId => true
  | .toUnsignedHex => true
  | .estimateFee => true
  | _ => false

theorem recomputed_outcome {s t : Builder} (hs : (cell native).Coherent s)
    (ht : (cell native).Coherent t) (hb : (cell native).build s = (cell native).build t)
    (hnetwork : s.network = t.network) {c : Call native} (hc : c.isRecomputed = true) :
    outcome (machine native runtime) s c = outcome (machine native runtime) t c := by
  have hfee : s.feeConfig = t.feeConfig := by
    rw [WithdrawUnbondedTransactionBuilder.feeConfig, hnetwork]
    rfl
  cases c with
  | txId =>
    simp only [outcome, machine, EStateM.run_bind, txId_run hs, txId_run ht, hb]
    cases (cell native).build t <;> rfl
  | toUnsignedHex =>
    simp only [outcome, machine, EStateM.run_bind, toUnsignedHex_run hs, toUnsignedHex_run ht, hb]
    cases (cell native).build t <;> rfl
  | estimateFee =>
    simp only [outcome, machine, EStateM.run_bind, estimateFee_run hs, estimateFee_run ht, hb,
      hfee]
    cases (cell native).build t with
    | error e => rfl
    | ok rawTx =>
      cases hnative : parseFeeConfigForNative t.feeConfig >>=
        native.stakingTransaction.estimateWithdrawUnbondedTransactionFee
          (some rawTx.unsignedRawTx) <;> simp [hnative]
  | addOutput output => cases hc
  | addViewKey viewKey => cases hc
  | sign keyPair => cases hc
  | addWitness witness => cases hc
  | toSignedPlainHex => cases hc
  | toHex address => cases hc
  | query q => cases hc

variable (runtime) in
/-- Adding accepted outputs and view keys, in any interleaving, adds them all. -/
theorem additions_run (calls : List (Call native)) (t : Builder)
    (ht : (cell native).Coherent t) (hadditions : ∀ c ∈ calls, c.isAddition = true)
    (houtputs : ∀ output ∈ calls.filterMap Call.output,
      owWithdrawUnbondedOutput native output = .ok none ∧
        t.isTransferAddressInNetwork native output.address = .ok true)
    (hviewKeys : ∀ viewKey ∈ calls.filterMap Call.viewKey, owViewKey native viewKey = .ok none)
    (hlen : t.outputs.length + (calls.filterMap Call.output).length ≤ maxOutputSize) :
    (cell native).Coherent (execute (machine native runtime) t calls).2 ∧
      (execute (machine native runtime) t calls).2.network = t.network ∧
      (execute (machine native runtime) t calls).2.nonce = t.nonce ∧
      (execute (machine native runtime) t calls).2.outputs =
        t.outputs ++ calls.filterMap Call.output ∧
      (execute (machine native runtime) t calls).2.viewKeys =
        t.viewKeys ++ calls.filterMap Call.viewKey := by
  induction calls generalizing t with
  | nil => exact ⟨ht, rfl, rfl, (List.append_nil _).symm, (List.append_nil _).symm⟩
  | cons c rest ih =>
    have hrest : ∀ d ∈ rest, d.isAddition = true :=
      fun d hd => hadditions d (List.mem_cons_of_mem _ hd)
    rw [execute_cons]
    cases c with
    | addOutput output =>
      change ∀ o ∈ output :: rest.filterMap Call.output, _ at houtputs
      change t.outputs.length + (output :: rest.filterMap Call.output).length ≤ _ at hlen
      simp only [List.mem_cons, List.length_cons] at houtputs hlen
      have hguard : outputGuard native t output = .ok () :=
        (outputGuard_eq_ok t output).mpr
          ⟨(houtputs output (Or.inl rfl)).1, by omega, (houtputs output (Or.inl rfl)).2⟩
      have hnext : next (machine native runtime) t (.addOutput output) =
          { t.clearPreparedRawTx with outputs := t.outputs ++ [output] } := by
        simp [next, machine, addOutput_run, hguard]
      rw [hnext]
      have h := ih { t.clearPreparedRawTx with outputs := t.outputs ++ [output] } (Or.inl rfl) hrest
        (fun o ho => houtputs o (Or.inr ho)) hviewKeys
        (by simp only [List.length_append, List.length_cons, List.length_nil]; omega)
      refine ⟨h.1, h.2.1, h.2.2.1, ?_, h.2.2.2.2⟩
      rw [h.2.2.2.1]
      simp [Call.output]
    | addViewKey viewKey =>
      change ∀ k ∈ viewKey :: rest.filterMap Call.viewKey, _ at hviewKeys
      simp only [List.mem_cons] at hviewKeys
      have how : owNative (owViewKey native viewKey) "viewKey" = .ok () :=
        (owNative_eq_ok _ _).mpr (hviewKeys viewKey (Or.inl rfl))
      have hnext : next (machine native runtime) t (.addViewKey viewKey) =
          { t.clearPreparedRawTx with viewKeys := t.viewKeys ++ [viewKey] } := by
        simp [next, machine, addViewKey_run, how]
      rw [hnext]
      have h := ih { t.clearPreparedRawTx with viewKeys := t.viewKeys ++ [viewKey] } (Or.inl rfl)
        hrest houtputs (fun k hk => hviewKeys k (Or.inr hk)) hlen
      refine ⟨h.1, h.2.1, h.2.2.1, h.2.2.2.1, ?_⟩
      rw [h.2.2.2.2]
      simp [Call.viewKey]
    | sign keyPair => cases hadditions _ (List.mem_cons_self ..)
    | addWitness witness => cases hadditions _ (List.mem_cons_self ..)
    | txId => cases hadditions _ (List.mem_cons_self ..)
    | estimateFee => cases hadditions _ (List.mem_cons_self ..)
    | toUnsignedHex => cases hadditions _ (List.mem_cons_self ..)
    | toSignedPlainHex => cases hadditions _ (List.mem_cons_self ..)
    | toHex address => cases hadditions _ (List.mem_cons_self ..)
    | query q => cases hadditions _ (List.mem_cons_self ..)

/-- The queries of a reachable builder answer as those of a new builder with the
same nonce and network after any interleaving of the accepted outputs and view
keys, and its cache is empty or holds the encoding and id of what it was given. -/
theorem refines_uncached {options fresh : WithdrawUnbondedTransactionBuilderOptions}
    {s₀ s t₀ : Builder} {log : Log JsError Builder (Call native) Value}
    (hnew : WithdrawUnbondedTransactionBuilder.new options = .ok s₀)
    (run : Run (machine native runtime) s₀ log s)
    (hfresh : WithdrawUnbondedTransactionBuilder.new fresh = .ok t₀)
    (hnonce : t₀.nonce = s₀.nonce) (hnetwork : t₀.network = s₀.network)
    (calls : List (Call native)) (hadditions : ∀ c ∈ calls, c.isAddition = true)
    (houtputs : calls.filterMap Call.output = accepted Call.output log)
    (hviewKeys : calls.filterMap Call.viewKey = accepted Call.viewKey log) :
    (∀ c : Call native, c.isRecomputed = true → outcome (machine native runtime) s c =
      outcome (machine native runtime) (execute (machine native runtime) t₀ calls).2 c) ∧
    (s.unsignedRawTx = none ∧ s.innertTxId = none ∨
      ∃ rawTx, native.stakingTransaction.buildRawWithdrawUnbondedTransaction {
          nonce := s₀.nonce.toString10
          outputs := (accepted Call.output log).map parseOutputForNative
          viewKeys := accepted Call.viewKey log
          chainHexId := s₀.network.chainHexId } = .ok rawTx ∧
        s.unsignedRawTx = some rawTx.unsignedRawTx ∧ s.innertTxId = some rawTx.txId) := by
  have hs := (Replay.start hnew).run run
  have ht₀ : Replay native t₀ [] t₀ := Replay.start hfresh
  constructor
  · intro c hc
    have hinNetwork : ∀ address, t₀.isTransferAddressInNetwork native address =
        s.isTransferAddressInNetwork native address := by
      intro address
      simp only [WithdrawUnbondedTransactionBuilder.isTransferAddressInNetwork, hnetwork,
        hs.network]
    obtain ⟨hcoherent, htnetwork, htnonce, htoutputs, htviewKeys⟩ :=
      additions_run runtime calls t₀ ht₀.coherent hadditions
        (by
          intro output ho
          rw [houtputs, ← hs.outputs] at ho
          rw [hinNetwork]
          exact hs.outputs_accepted output ho)
        (by
          intro viewKey hk
          rw [hviewKeys, ← hs.viewKeys] at hk
          exact hs.viewKeys_accepted viewKey hk)
        (by
          have hlen := hs.outputs_length
          rw [hs.outputs] at hlen
          rw [houtputs, ht₀.outputs]
          simpa [accepted] using hlen)
    rw [houtputs, ht₀.outputs, ← hs.outputs] at htoutputs
    rw [hviewKeys, ht₀.viewKeys, ← hs.viewKeys] at htviewKeys
    have hoptions : (execute (machine native runtime) t₀ calls).2.rawTxOptions =
        s.rawTxOptions := by
      simp [WithdrawUnbondedTransactionBuilder.rawTxOptions, htnetwork, htnonce, htoutputs,
        htviewKeys, hnonce, hnetwork, hs.nonce, hs.network, accepted]
    have hhas : (execute (machine native runtime) t₀ calls).2.hasOutput = s.hasOutput := by
      simp [WithdrawUnbondedTransactionBuilder.hasOutput, htoutputs, accepted]
    refine recomputed_outcome hs.coherent hcoherent ?_ ?_ hc
    · simp [cell, hoptions, hhas]
    · rw [htnetwork, hnetwork, hs.network]
  · rcases hs.coherent with hempty | ⟨rawTx, hb, hfull⟩
    · refine Or.inl ⟨?_, ?_⟩ <;> rw [← hempty] <;> rfl
    · refine Or.inr ⟨rawTx, ?_, ?_, ?_⟩
      · cases houtput : s.hasOutput with
        | false =>
          rw [build_of_no_output houtput] at hb
          cases hb
        | true =>
          rw [build_of_hasOutput houtput] at hb
          simpa [WithdrawUnbondedTransactionBuilder.rawTxOptions, hs.nonce, hs.network,
            hs.outputs, hs.viewKeys] using hb
      · rw [← hfull]
        rfl
      · rw [← hfull]
        rfl

/-- A view key between two outputs, the second one added to a signed builder. -/
theorem refines_uncached_sample :
    outcome (machine Native.Sample.module Native.Sample.runtime)
        (Sample.run [.addViewKey [1], .addOutput Sample.output]).2 .txId =
      outcome (machine Native.Sample.module Native.Sample.runtime)
        (execute (machine Native.Sample.module Native.Sample.runtime) Sample.start
          [.addViewKey [1], .addOutput Sample.output, .addOutput Sample.output]).2 .txId :=
  (refines_uncached Sample.new_options
    (run_execute (machine Native.Sample.module Native.Sample.runtime) _ _) Sample.new_options
    rfl rfl [.addViewKey [1], .addOutput Sample.output, .addOutput Sample.output]
    (by decide) (by decide +kernel) (by decide +kernel)).1 .txId rfl

end ThalerNodelib.WithdrawUnbonded
