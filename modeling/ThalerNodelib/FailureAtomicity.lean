import ThalerNodelib.DepositSteps
import ThalerNodelib.TransferSteps
import ThalerNodelib.WithdrawUnbondedSteps

/-!
What a call leaves behind when it throws. The methods check, then fill the
cache, then call the native module and only then append or store, so a throw
keeps everything or keeps everything with the cache filled.
-/
namespace ThalerNodelib.Transfer

open Js Native Runs

variable {native : NativeModule} {runtime : Runtime}

/-- The cached transaction, seen where it has no witnesses yet. -/
def cell (native : NativeModule) : LazyCell JsError Builder Buffer where
  clear b := b.clearIncompleteSigningHex
  fill b incompleteHex := b.setIncompleteHex incompleteHex
  build b := b.buildIncompleteHex native
  clear_clear _ := rfl
  clear_fill _ _ := rfl
  fill_clear _ _ := rfl
  fill_fill _ _ _ := rfl
  build_clear _ := rfl
  build_fill _ _ := rfl

theorem atMostFilled_of_toIncompleteHex {s : Builder} {incompleteHex : Buffer}
    (h : s.toIncompleteHex native = .ok incompleteHex) :
    (cell native).AtMostFilled s (s.setIncompleteHex incompleteHex) := by
  rw [TransferTransactionBuilder.toIncompleteHex] at h
  cases hstored : s.incompleteHex with
  | some stored =>
    rw [hstored] at h
    rw [← Except.ok.inj h]
    exact Or.inl (s.setIncompleteHex_of_stored hstored)
  | none =>
    rw [hstored] at h
    refine Or.inr ⟨?_, incompleteHex, h, rfl⟩
    change s.clearIncompleteSigningHex = s
    rw [TransferTransactionBuilder.clearIncompleteSigningHex, ← hstored]

theorem Step.atMostFilled {s t : Builder} {c : Call native} {e : JsError}
    (h : Step native s c (.error e) t) : (cell native).AtMostFilled s t := by
  cases h with
  | kept _ => exact Or.inl rfl
  | prepared incompleteHex _ hhex _ => exact atMostFilled_of_toIncompleteHex hhex

/-- The builder has what it had, and no cached transaction but the one it had
or, where it had none, that of its contents without a witness. -/
structure Kept (native : NativeModule) (s t : Builder) : Prop where
  network : t.network = s.network
  inputs : t.inputs = s.inputs
  outputs : t.outputs = s.outputs
  viewKeys : t.viewKeys = s.viewKeys
  incompleteHex : t.incompleteHex = s.incompleteHex ∨
    s.incompleteHex = none ∧
      ∃ incompleteHex, s.buildIncompleteHex native = .ok incompleteHex ∧
        t.incompleteHex = some incompleteHex

theorem Kept.of_atMostFilled {s t : Builder} (h : (cell native).AtMostFilled s t) :
    Kept native s t := by
  rcases h with rfl | ⟨hempty, incompleteHex, hbuild, rfl⟩
  · exact ⟨rfl, rfl, rfl, rfl, Or.inl rfl⟩
  · have hnone : s.incompleteHex = none := by
      rw [← hempty]
      rfl
    exact ⟨rfl, rfl, rfl, rfl, Or.inr ⟨hnone, incompleteHex, hbuild, rfl⟩⟩

end ThalerNodelib.Transfer

namespace ThalerNodelib.Deposit

open Js Native Runs

variable {native : NativeModule} {runtime : Runtime}

theorem Step.atMostFilled {s t : Builder native} {c : Call native} {e : JsError}
    (hs : (cell native).Coherent s) (h : Step native s c (.error e) t) :
    (cell native).AtMostFilled s t := by
  cases h with
  | kept _ => exact Or.inl rfl
  | filled rawTx _ hb => exact (cell native).atMostFilled_fill hs hb

/-- The builder has what it had, each input with its witness, and no cached raw
transaction but the one it had or, where it had none, that of its contents. -/
structure Kept (s t : Builder native) : Prop where
  network : t.network = s.network
  stakingAddress : t.stakingAddress = s.stakingAddress
  inputs : t.inputs = s.inputs
  cached : t.unsignedRawTx = s.unsignedRawTx ∧ t.innertTxId = s.innertTxId ∨
    (s.unsignedRawTx = none ∧ s.innertTxId = none) ∧
      ∃ rawTx, native.stakingTransaction.buildRawDepositTransaction s.rawTxOptions = .ok rawTx ∧
        t.unsignedRawTx = some rawTx.unsignedRawTx ∧ t.innertTxId = some rawTx.txId

theorem Kept.of_atMostFilled {s t : Builder native} (h : (cell native).AtMostFilled s t) :
    Kept s t := by
  rcases h with rfl | ⟨hempty, rawTx, hbuild, rfl⟩
  · exact ⟨rfl, rfl, rfl, Or.inl ⟨rfl, rfl⟩⟩
  · have hnone : s.unsignedRawTx = none ∧ s.innertTxId = none := by
      rw [← hempty]
      exact ⟨rfl, rfl⟩
    refine ⟨rfl, rfl, rfl, Or.inr ⟨hnone, rawTx, ?_, rfl, rfl⟩⟩
    cases hinput : s.hasInput with
    | true => rwa [build_of_hasInput hinput] at hbuild
    | false =>
      rw [build_of_no_input hinput] at hbuild
      cases hbuild

end ThalerNodelib.Deposit

namespace ThalerNodelib.WithdrawUnbonded

open Js Native Runs

variable {native : NativeModule} {runtime : Runtime}

theorem Step.atMostFilled {s t : Builder} {c : Call native} {e : JsError}
    (hs : (cell native).Coherent s) (h : Step native s c (.error e) t) :
    (cell native).AtMostFilled s t := by
  cases h with
  | kept _ => exact Or.inl rfl
  | filled rawTx _ hb => exact (cell native).atMostFilled_fill hs hb

/-- The builder has what it had, and no cached raw transaction but the one it
had or, where it had none, that of its contents. -/
structure Kept (native : NativeModule) (s t : Builder) : Prop where
  network : t.network = s.network
  nonce : t.nonce = s.nonce
  outputs : t.outputs = s.outputs
  viewKeys : t.viewKeys = s.viewKeys
  witness : t.witness = s.witness
  cached : t.unsignedRawTx = s.unsignedRawTx ∧ t.innertTxId = s.innertTxId ∨
    (s.unsignedRawTx = none ∧ s.innertTxId = none) ∧
      ∃ rawTx, native.stakingTransaction.buildRawWithdrawUnbondedTransaction s.rawTxOptions =
          .ok rawTx ∧
        t.unsignedRawTx = some rawTx.unsignedRawTx ∧ t.innertTxId = some rawTx.txId

theorem Kept.of_atMostFilled {s t : Builder} (h : (cell native).AtMostFilled s t) :
    Kept native s t := by
  rcases h with rfl | ⟨hempty, rawTx, hbuild, rfl⟩
  · exact ⟨rfl, rfl, rfl, rfl, rfl, Or.inl ⟨rfl, rfl⟩⟩
  · have hnone : s.unsignedRawTx = none ∧ s.innertTxId = none := by
      rw [← hempty]
      exact ⟨rfl, rfl⟩
    refine ⟨rfl, rfl, rfl, rfl, rfl, Or.inr ⟨hnone, rawTx, ?_, rfl, rfl⟩⟩
    cases houtput : s.hasOutput with
    | true => rwa [build_of_hasOutput houtput] at hbuild
    | false =>
      rw [build_of_no_output houtput] at hbuild
      cases hbuild

end ThalerNodelib.WithdrawUnbonded

namespace ThalerNodelib.FailureAtomicity

open Js Native Runs

variable {native : NativeModule} {runtime : Runtime}

/-- In every reachable state of the three builders a call that throws keeps
what the builder has. -/
structure FailureAtomic (native : NativeModule) (runtime : Runtime) : Prop where
  transfer : ∀ options s₀ log s c e, Transfer.TransferTransactionBuilder.new options = .ok s₀ →
    Run (Transfer.machine native runtime) s₀ log s →
    outcome (Transfer.machine native runtime) s c = .error e →
    Transfer.Kept native s (next (Transfer.machine native runtime) s c)
  deposit : ∀ options s₀ log s c e,
    Deposit.DepositTransactionBuilder.new native options = .ok s₀ →
    Run (Deposit.machine native runtime) s₀ log s →
    outcome (Deposit.machine native runtime) s c = .error e →
    Deposit.Kept s (next (Deposit.machine native runtime) s c)
  withdrawUnbonded : ∀ options s₀ log s c e,
    WithdrawUnbonded.WithdrawUnbondedTransactionBuilder.new options = .ok s₀ →
    Run (WithdrawUnbonded.machine native runtime) s₀ log s →
    outcome (WithdrawUnbonded.machine native runtime) s c = .error e →
    WithdrawUnbonded.Kept native s (next (WithdrawUnbonded.machine native runtime) s c)

/-- A call that throws adds nothing, removes nothing and replaces nothing; at
most it fills an empty cache. -/
theorem failure_atomic : FailureAtomic native runtime where
  transfer options s₀ log s c e _ _ hthrows := by
    exact .of_atMostFilled (Transfer.step_of_outcome hthrows).atMostFilled
  deposit options s₀ log s c e hnew run hthrows := by
    have hs := Deposit.run_coherent (Deposit.new_coherent hnew) run
    exact .of_atMostFilled ((Deposit.step_of_outcome hs hthrows).atMostFilled hs)
  withdrawUnbonded options s₀ log s c e hnew run hthrows := by
    have hs := WithdrawUnbonded.run_coherent (WithdrawUnbonded.new_coherent hnew) run
    exact .of_atMostFilled ((WithdrawUnbonded.step_of_outcome hs hthrows).atMostFilled hs)

/-- A witness that does not decode leaves the transaction without witnesses behind. -/
example :
    let s := (Transfer.Sample.run [.addInput (Transfer.Sample.input 7 1 1)]).2
    let t := next (Transfer.machine Crates.Sample.module Native.Sample.runtime) s
      (.addWitness (.ofNat 0) [])
    (outcome (Transfer.machine Crates.Sample.module Native.Sample.runtime) s
        (.addWitness (.ofNat 0) [])).isOk = false ∧
      s.incompleteHex = none ∧ t.incompleteHex.isSome = true := by
  decide +kernel

end ThalerNodelib.FailureAtomicity
