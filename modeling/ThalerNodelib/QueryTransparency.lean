import ThalerNodelib.SampleCrates
import ThalerNodelib.WithdrawRecomputation
import ThalerNodelib.WitnessFreshness

/-!
Two runs of the builder of withdraw unbonded transactions that differ by
queries and by signings that throw. They stay equal up to the cache, so every
common call answers alike except a `toSignedPlainHex` that finds the cache
filled in one run and empty in the other.
-/
namespace ThalerNodelib.WithdrawUnbonded

open Js Native Network KeyPairs ThalerNodelib.Types Runs NativeFromCrates

variable {native : NativeModule} {runtime : Runtime}

variable (native runtime) in
/-- The calls that the two runs may differ by. -/
def Skipped (s : Builder) (c : Call native) : Prop :=
  c.isRecomputed = true ∨ (∃ q, c = .query q) ∨
    c.isSigning = true ∧ ∃ e, outcome (machine native runtime) s c = .error e

/-- A call that neither adds nor signs changes nothing but the cache. -/
theorem Step.same {s t : Builder} {c : Call native} {r : Except JsError Value}
    (h : Step native s c r t)
    (hno : ∀ v, r = .ok v → c.isAddition = false ∧ c.isSigning = false) :
    (cell native).Same s t := by
  cases h with
  | addOutput output _ _ _ => cases (hno _ rfl).1
  | addViewKey viewKey _ => cases (hno _ rfl).1
  | sign keyPair rawTx witness _ _ => cases (hno _ rfl).2
  | addWitness rawTx witness _ _ => cases (hno _ rfl).2
  | kept _ => rfl
  | filled rawTx _ _ => exact (cell native).same_fill s rawTx

theorem skipped_same {s : Builder} (hs : (cell native).Coherent s) {c : Call native}
    (h : Skipped native runtime s c) :
    (cell native).Same s (next (machine native runtime) s c) := by
  refine (step hs c).same ?_
  intro v hv
  rcases h with hc | ⟨q, rfl⟩ | ⟨_, e, he⟩
  · cases c <;> first | exact ⟨rfl, rfl⟩ | cases hc
  · exact ⟨rfl, rfl⟩
  · rw [he] at hv
    cases hv

/-- What two aligned runs keep: coherent caches, and equality up to the cache. -/
structure Agree (native : NativeModule) (s t : Builder) : Prop where
  left : (cell native).Coherent s
  right : (cell native).Coherent t
  same : (cell native).Same s t

theorem Agree.skip_left {s t : Builder} (h : Agree native s t) {c : Call native}
    (hc : Skipped native runtime s c) : Agree native (next (machine native runtime) s c) t :=
  ⟨(step h.left c).coherent h.left, h.right, (skipped_same h.left hc).symm.trans h.same⟩

theorem Agree.skip_right {s t : Builder} (h : Agree native s t) {c : Call native}
    (hc : Skipped native runtime t c) : Agree native s (next (machine native runtime) t c) :=
  ⟨h.left, (step h.right c).coherent h.right, h.same.trans (skipped_same h.right hc)⟩

theorem Agree.both {s t : Builder} (h : Agree native s t) (c : Call native) :
    Agree native (next (machine native runtime) s c) (next (machine native runtime) t c) := by
  refine ⟨(step h.left c).coherent h.left, (step h.right c).coherent h.right, ?_⟩
  by_cases hc : c = .toSignedPlainHex
  · subst hc
    have hs : (cell native).Same s (next (machine native runtime) s .toSignedPlainHex) :=
      (step h.left .toSignedPlainHex).same fun _ _ => ⟨rfl, rfl⟩
    have ht : (cell native).Same t (next (machine native runtime) t .toSignedPlainHex) :=
      (step h.right .toSignedPlainHex).same fun _ _ => ⟨rfl, rfl⟩
    exact hs.symm.trans (h.same.trans ht)
  · exact (same_step h.left h.right h.same c fun hcall => absurd hcall hc).2

theorem Agree.aligned {s t : Builder} (h : Agree native s t) {cs ds : List (Call native)}
    {common : List (Builder × Builder × Call native)}
    (halign : Alignment (machine native runtime) (Skipped native runtime) s cs t ds common) :
    ∀ p ∈ common, Agree native p.1 p.2.1 :=
  halign.related (Agree native) (fun _ _ c hR => hR.both c)
    (fun _ _ _ hc hR => hR.skip_left hc) (fun _ _ _ hc hR => hR.skip_right hc) h

/-- The common call does not read a cache that only one of the runs has filled. -/
def CacheAgrees (p : Builder × Builder × Call native) : Prop :=
  p.2.2 = .toSignedPlainHex → p.1.isSigned = true → p.1.isRawTxPrepared = p.2.1.isRawTxPrepared

theorem toSignedPlainHex_outcome {s : Builder} {witness : Buffer} (hw : s.witness = some witness) :
    outcome (machine native runtime) s .toSignedPlainHex =
      (native.stakingTransaction.withdrawUnbondedTransactionToSignedPlainHex s.unsignedRawTx
        (some witness)).map fun signedRawTx => .buffer (bufferFromHex "00" ++ signedRawTx) := by
  simp only [outcome, machine, EStateM.run_bind, toSignedPlainHex_run, hw]
  cases hnative : native.stakingTransaction.withdrawUnbondedTransactionToSignedPlainHex
    s.unsignedRawTx (some witness) <;> simp [Except.map]

theorem map_signed_injective {x y : Except JsError Buffer}
    (h : (x.map fun signedRawTx => Value.buffer (bufferFromHex "00" ++ signedRawTx)) =
      y.map fun signedRawTx => Value.buffer (bufferFromHex "00" ++ signedRawTx)) : x = y := by
  cases x <;> cases y <;> simp_all [Except.map]

/-- Every common call answers alike if each `toSignedPlainHex` of a signed
builder finds the cache filled in both runs or in neither, and only then where
the native module tells a missing raw transaction from a present one. -/
theorem transparent_iff
    (hmissing : ∀ rawTx witness,
      native.stakingTransaction.withdrawUnbondedTransactionToSignedPlainHex none (some witness) ≠
        native.stakingTransaction.withdrawUnbondedTransactionToSignedPlainHex (some rawTx)
          (some witness))
    {s t : Builder} (h : Agree native s t) {cs ds : List (Call native)}
    {common : List (Builder × Builder × Call native)}
    (halign : Alignment (machine native runtime) (Skipped native runtime) s cs t ds common) :
    (∀ p ∈ common, outcome (machine native runtime) p.1 p.2.2 =
      outcome (machine native runtime) p.2.1 p.2.2) ↔ ∀ p ∈ common, CacheAgrees p := by
  have hagree := h.aligned halign
  constructor
  · intro hsame p hp hcall hsigned
    obtain ⟨a, b, c⟩ := p
    have hwitness : a.witness = b.witness := by
      change a.clearPreparedRawTx.witness = b.clearPreparedRawTx.witness
      exact congrArg _ (hagree _ hp).same
    obtain ⟨witness, hw⟩ := Option.isSome_iff_exists.mp hsigned
    obtain rfl : c = .toSignedPlainHex := hcall
    have hout : outcome (machine native runtime) a .toSignedPlainHex =
        outcome (machine native runtime) b .toSignedPlainHex := hsame _ hp
    rw [toSignedPlainHex_outcome hw, toSignedPlainHex_outcome (hwitness ▸ hw)] at hout
    have hnative := map_signed_injective hout
    simp only [WithdrawUnbondedTransactionBuilder.isRawTxPrepared]
    cases ha : a.unsignedRawTx with
    | none =>
      cases hb : b.unsignedRawTx with
      | none => rfl
      | some rawTx =>
        rw [ha, hb] at hnative
        exact absurd hnative (hmissing _ _)
    | some rawTx =>
      cases hb : b.unsignedRawTx with
      | none =>
        rw [ha, hb] at hnative
        exact absurd hnative.symm (hmissing _ _)
      | some rawTx' => rfl
  · intro hcache p hp
    have hp' := hagree p hp
    exact (same_step hp'.left hp'.right hp'.same p.2.2 (hcache p hp)).1

theorem Agree.start {options : WithdrawUnbondedTransactionBuilderOptions} {s₀ : Builder}
    (h : WithdrawUnbondedTransactionBuilder.new options = .ok s₀) : Agree native s₀ s₀ :=
  ⟨new_coherent h, new_coherent h, rfl⟩

/-- Exporting a missing raw transaction is a failed downcast, which no raw
transaction that is there leads to. -/
theorem toSignedPlainHex_missing (crates : Crates) (rawTx witness : Buffer) :
    NativeStaking.withdrawUnbondedTransactionToSignedPlainHex crates none (some witness) ≠
      NativeStaking.withdrawUnbondedTransactionToSignedPlainHex crates (some rawTx)
        (some witness) := by
  intro h
  have hnone : NativeStaking.withdrawUnbondedTransactionToSignedPlainHex crates none
      (some witness) = .error (.typeError (crates.neon.downcast "Buffer")) := rfl
  rw [hnone] at h
  unfold NativeStaking.withdrawUnbondedTransactionToSignedPlainHex NativeStaking.txArgument
    FunctionTypes.parseStakedStateOpWitness FunctionTypes.decode at h
  simp only [FunctionTypes.bufferArgument_some, bind, Except.bind] at h
  cases htx : crates.transactions.withdrawUnbondedTx.codec.read rawTx with
  | error e =>
    rw [htx] at h
    cases h
  | ok tx =>
    cases hwitness : crates.transactions.stakedStateOpWitness.read witness with
    | error e =>
      rw [htx, hwitness] at h
      cases h
    | ok w =>
      rw [htx, hwitness] at h
      cases h

/-- Two runs from a new builder that differ by queries and by signings that
throw: their common calls answer alike exactly when each `toSignedPlainHex` of
a signed builder finds the raw transaction prepared in both runs or in neither. -/
theorem queries_transparent_iff {crates : Crates} {multiSig : MultiSigModule}
    {options : WithdrawUnbondedTransactionBuilderOptions} {s₀ : Builder}
    (hnew : WithdrawUnbondedTransactionBuilder.new options = .ok s₀)
    {cs ds : List (Call (nativeModule crates multiSig))}
    {common : List (Builder × Builder × Call (nativeModule crates multiSig))}
    (halign : Alignment (machine (nativeModule crates multiSig) runtime)
      (Skipped (nativeModule crates multiSig) runtime) s₀ cs s₀ ds common) :
    (∀ p ∈ common, outcome (machine (nativeModule crates multiSig) runtime) p.1 p.2.2 =
      outcome (machine (nativeModule crates multiSig) runtime) p.2.1 p.2.2) ↔
    ∀ p ∈ common, CacheAgrees p :=
  transparent_iff (toSignedPlainHex_missing crates) (.start hnew) halign

/-! Runs on the sample crates, with and without a `txId` before the last call. -/
namespace Sample

def payment : Output := { output with address := Crates.Sample.transferAddress 7 }

def pay : Call Crates.Sample.module := .addOutput payment

def signPayment : Call Crates.Sample.module := .sign (Crates.Sample.keyPair 7)

end Sample

theorem queries_transparent_before_export :
    ∃ common, Alignment (machine Crates.Sample.module Native.Sample.runtime)
        (Skipped Crates.Sample.module Native.Sample.runtime)
        Sample.start [Sample.pay, Sample.signPayment, .toSignedPlainHex]
        Sample.start [Sample.pay, Sample.signPayment, .txId, .toSignedPlainHex] common ∧
      ∀ p ∈ common, outcome (machine Crates.Sample.module Native.Sample.runtime) p.1 p.2.2 =
        outcome (machine Crates.Sample.module Native.Sample.runtime) p.2.1 p.2.2 := by
  have halign : Alignment (machine Crates.Sample.module Native.Sample.runtime)
      (Skipped Crates.Sample.module Native.Sample.runtime)
      Sample.start [Sample.pay, Sample.signPayment, .toSignedPlainHex]
      Sample.start [Sample.pay, Sample.signPayment, .txId, .toSignedPlainHex] _ :=
    .both _ (.both _ (.right _ (.inl rfl) (.both _ (.nil _ _))))
  refine ⟨_, halign, (queries_transparent_iff Sample.new_options halign).mpr ?_⟩
  have hexport : (next (machine Crates.Sample.module Native.Sample.runtime)
      (next (machine Crates.Sample.module Native.Sample.runtime) Sample.start Sample.pay)
      Sample.signPayment).isRawTxPrepared = true := by decide +kernel
  intro p hp
  rcases List.mem_cons.mp hp with rfl | hp
  · exact nofun
  rcases List.mem_cons.mp hp with rfl | hp
  · exact nofun
  obtain rfl := List.mem_singleton.mp hp
  intro _ _
  exact hexport.trans (by decide +kernel)

/-- After an output is added to a signed builder the export fails, unless the
id was asked for in between. -/
theorem export_changed_by_txId :
    WithdrawUnbondedTransactionBuilder.new Sample.options = .ok Sample.start ∧
    ∃ common, Alignment (machine Crates.Sample.module Native.Sample.runtime)
        (Skipped Crates.Sample.module Native.Sample.runtime)
        Sample.start [Sample.pay, Sample.signPayment, Sample.pay, .toSignedPlainHex]
        Sample.start [Sample.pay, Sample.signPayment, Sample.pay, .txId, .toSignedPlainHex]
        common ∧
      ¬ ∀ p ∈ common, outcome (machine Crates.Sample.module Native.Sample.runtime) p.1 p.2.2 =
        outcome (machine Crates.Sample.module Native.Sample.runtime) p.2.1 p.2.2 := by
  refine ⟨Sample.new_options, _, .both _ (.both _ (.both _ (.right _ (.inl rfl)
    (.both _ (.nil _ _))))), ?_⟩
  decide +kernel

end ThalerNodelib.WithdrawUnbonded
