import ThalerNodelib.DepositExport
import ThalerNodelib.PublicBuilders
import ThalerNodelib.WithdrawUnbondedExport

/-!
When a completed builder can be exported, for the five builders of staking and
council node transactions. The builders of unbond, node join and unjail
transactions are completed by any key pair, and sign when they export.
-/
namespace ThalerNodelib.PublicBuilders

open Js Native Network KeyPairs ThalerNodelib.Types Runs Crates NativeExport NativeFromCrates
  NativeStaking

variable {crates : Crates} {multiSig : MultiSigModule} {Fields α : Type}

/-- The kind makes raw transactions of the format, and exports them signed. -/
structure Formatted (crates : Crates) (kind : Kind Fields) (format : TransactionFormat α)
    (publicAux : α → crates.types.StakedStateOpWitness → TxPublicAux crates.types) : Prop where
  raw : ∀ fields network rawTx, kind.buildRaw fields network = .ok rawTx →
    ∃ tx, rawTx = rawTxObject format tx
  signed : kind.exportHex = publicTransactionToHex crates format publicAux

theorem unbond_formatted : Formatted crates (unbond (nativeModule crates multiSig))
    crates.transactions.unbondTx .unbondStakeTx where
  raw fields network rawTx h := by
    obtain ⟨_, -, h⟩ := bind_eq_ok.mp h
    obtain ⟨_, -, h⟩ := bind_eq_ok.mp h
    obtain ⟨_, -, h⟩ := bind_eq_ok.mp h
    obtain ⟨_, -, h⟩ := bind_eq_ok.mp h
    exact ⟨_, (Except.ok.inj h).symm⟩
  signed := rfl

theorem nodeJoin_formatted : Formatted crates (nodeJoin (nativeModule crates multiSig))
    crates.transactions.nodeJoinRequestTx .nodeJoinTx where
  raw fields network rawTx h := by
    obtain ⟨_, -, h⟩ := bind_eq_ok.mp h
    obtain ⟨_, -, h⟩ := bind_eq_ok.mp h
    obtain ⟨_, -, h⟩ := bind_eq_ok.mp h
    obtain ⟨_, -, h⟩ := bind_eq_ok.mp h
    exact ⟨_, (Except.ok.inj h).symm⟩
  signed := rfl

theorem unjail_formatted : Formatted crates (unjail (nativeModule crates multiSig))
    crates.transactions.unjailTx .unjailTx where
  raw fields network rawTx h := by
    obtain ⟨tx, -, h⟩ := bind_eq_ok.mp h
    exact ⟨tx, (Except.ok.inj h).symm⟩
  signed := rfl

/-- The key pair was given to the builder with its private key. -/
def SignedPrivately {kind : Kind Fields}
    (log : Log JsError (Builder (nativeModule crates multiSig) kind)
      (Call (nativeModule crates multiSig)) (Value Fields)) : Prop :=
  ∀ e ∈ log, ∀ keyPair, e.call = .sign keyPair → keyPair.hasPrivateKey = true

theorem new_unsigned {native : NativeModule} {kind : Kind Fields} {options : Options Fields}
    {s : Builder native kind} (h : Builder.new native kind options = .ok s) :
    s.keyPair = none := by
  unfold Builder.new at h
  split at h
  · cases h
  · cases h
  · split at h
    · cases h
    · rw [← Except.ok.inj h]

/-- The key pair of a builder is one that a call of the run gave it. -/
theorem keyPair_of_run {native : NativeModule} {kind : Kind Fields} {options : Options Fields}
    {s₀ s : Builder native kind} {log : Log JsError (Builder native kind) (Call native) (Value Fields)}
    (hnew : Builder.new native kind options = .ok s₀) (run : Run (machine kind) s₀ log s) :
    ∀ keyPair, s.keyPair = some keyPair → ∃ e ∈ log, e.call = .sign keyPair := by
  refine run.invariant
    (fun log s => ∀ keyPair, s.keyPair = some keyPair → ∃ e ∈ log, e.call = .sign keyPair) ?_ ?_
  · intro keyPair hkeyPair
    rw [new_unsigned hnew] at hkeyPair
    cases hkeyPair
  · intro log s c _ ih keyPair hkeyPair
    rcases next_eq s c with hsame | ⟨given, rfl, hsigned⟩
    · rw [hsame] at hkeyPair
      obtain ⟨e, he, hcall⟩ := ih keyPair hkeyPair
      exact ⟨e, List.mem_cons_of_mem _ he, hcall⟩
    · rw [hsigned] at hkeyPair
      obtain rfl := Option.some.inj hkeyPair
      exact ⟨_, List.mem_cons_self .., rfl⟩

section Laws
variable (laws : ExportLaws crates)
include laws

/-- A builder with a key pair is exported exactly when the key pair signs. -/
theorem toHex_isOk_iff {kind : Kind Fields} {format : TransactionFormat α}
    {publicAux : α → crates.types.StakedStateOpWitness → TxPublicAux crates.types}
    (hformat : format.codec.Lawful) (hkind : Formatted crates kind format publicAux)
    {s : Builder (nativeModule crates multiSig) kind}
    {keyPair : KeyPair (nativeModule crates multiSig)} (h : s.keyPair = some keyPair) :
    (∃ v, outcome (machine kind) s .toHex = .ok v) ↔ keyPair.hasPrivateKey = true := by
  obtain ⟨tx, htx⟩ := hkind.raw _ _ _ s.prepared
  have hraw : s.unsignedRawTx = (rawTxObject format tx).unsignedRawTx :=
    congrArg RawTx.unsignedRawTx htx
  have hhex : s.toHex = publicTransactionToHex crates format publicAux
      (some (rawTxObject format tx).unsignedRawTx) keyPair.toObject := by
    rw [Builder.toHex, h, hkind.signed, hraw]
  rw [toHex_outcome, hhex,
    ← publicTransactionToHex_isOk_iff laws hformat publicAux tx keyPair]
  constructor
  · intro hexport
    obtain ⟨v, hv⟩ := hexport
    obtain ⟨hex, hok, -⟩ := map_eq_ok.mp hv
    exact ⟨hex, hok⟩
  · intro hexport
    obtain ⟨hex, hok⟩ := hexport
    exact ⟨.buffer hex, map_eq_ok.mpr ⟨hex, hok, rfl⟩⟩

/-- The completed builders of a run can be exported exactly when each key pair
that was given has its private key. -/
theorem exports_iff {kind : Kind Fields} {format : TransactionFormat α}
    {publicAux : α → crates.types.StakedStateOpWitness → TxPublicAux crates.types}
    (hformat : format.codec.Lawful) (hkind : Formatted crates kind format publicAux)
    {options : Options Fields} {s₀ s : Builder (nativeModule crates multiSig) kind}
    {log : Log JsError (Builder (nativeModule crates multiSig) kind)
      (Call (nativeModule crates multiSig)) (Value Fields)}
    (hnew : Builder.new (nativeModule crates multiSig) kind options = .ok s₀)
    (run : Run (machine kind) s₀ log s) :
    SucceedsWhen (machine kind) s₀ log (fun t => t.isCompleted = true) (· = .toHex) ↔
      SignedPrivately log := by
  constructor
  · intro hexports e he keyPair hcall
    obtain ⟨older, hsuffix, hrun, heq⟩ := run.mem_entry he
    have hnext := Run.call e.call hrun
    rw [← heq, hcall] at hnext
    exact (toHex_isOk_iff laws hformat hkind rfl).mp (hexports _ _ hsuffix hnext rfl .toHex rfl)
  · intro hprivate older t hsuffix hrun hcompleted c h
    subst h
    obtain ⟨keyPair, hkeyPair⟩ := Option.isSome_iff_exists.mp hcompleted
    obtain ⟨e, he, hcall⟩ := keyPair_of_run hnew hrun keyPair hkeyPair
    exact (toHex_isOk_iff laws hformat hkind hkeyPair).mpr
      (hprivate e (hsuffix.mem he) keyPair hcall)

end Laws

/-! An unbond transaction on the sample crates. -/
namespace Sample

def options : Options UnbondFields where
  fields := ⟨"0x" ++ hexEncode (List.replicate 20 7), .ofNat 0, .ofNat 1⟩
  network := none

theorem new_isOk : (Builder.new Crates.Sample.module (unbond Crates.Sample.module)
    options).toOption.isSome = true := by decide +kernel

def start : Builder Crates.Sample.module (unbond Crates.Sample.module) :=
  (Builder.new Crates.Sample.module (unbond Crates.Sample.module) options).toOption.get new_isOk

theorem new_options :
    Builder.new Crates.Sample.module (unbond Crates.Sample.module) options = .ok start :=
  eq_ok_of_isSome new_isOk

/-- The builder signed with a key pair. -/
def run (keyPair : KeyPair Crates.Sample.module) :
    Log JsError (Builder Crates.Sample.module (unbond Crates.Sample.module))
      (Call Crates.Sample.module) (Value UnbondFields) ×
    Builder Crates.Sample.module (unbond Crates.Sample.module) :=
  execute (machine (unbond Crates.Sample.module)) start [.sign keyPair]

end Sample
end ThalerNodelib.PublicBuilders

namespace ThalerNodelib.CompletedExport

open Js Native ThalerNodelib.Types Runs Crates NativeExport NativeFromCrates

variable {crates : Crates} {multiSig : MultiSigModule} {runtime : Runtime}

/-- For each of the five builders, when every completed state of a run can be exported. -/
structure ExportConditions (crates : Crates) (multiSig : MultiSigModule) (runtime : Runtime) :
    Prop where
  deposit : ∀ options s₀ s log,
    Deposit.DepositTransactionBuilder.new (nativeModule crates multiSig) options = .ok s₀ →
    Run (Deposit.machine (nativeModule crates multiSig) runtime) s₀ log s →
    (SucceedsWhen (Deposit.machine (nativeModule crates multiSig) runtime) s₀ log
        (fun t => t.isCompleted = true) (Deposit.IsExport runtime) ↔
      Throughout (Deposit.machine (nativeModule crates multiSig) runtime) s₀ log fun _ t =>
        t.isCompleted = true → Deposit.Exportable crates t)
  withdrawUnbonded : ∀ options s₀ s log,
    WithdrawUnbonded.WithdrawUnbondedTransactionBuilder.new options = .ok s₀ →
    Run (WithdrawUnbonded.machine (nativeModule crates multiSig) runtime) s₀ log s →
    (SucceedsWhen (WithdrawUnbonded.machine (nativeModule crates multiSig) runtime) s₀ log
        (fun t => t.isCompleted = true) (WithdrawUnbonded.IsExport runtime) ↔
      ∀ e ∈ log, e.succeeded = true → ∀ witness, e.call = .addWitness witness →
        OpWitness crates witness)
  unbond : ∀ options s₀ s log,
    PublicBuilders.Builder.new (nativeModule crates multiSig)
      (PublicBuilders.unbond (nativeModule crates multiSig)) options = .ok s₀ →
    Run (PublicBuilders.machine (PublicBuilders.unbond (nativeModule crates multiSig))) s₀ log s →
    (SucceedsWhen (PublicBuilders.machine (PublicBuilders.unbond (nativeModule crates multiSig)))
        s₀ log (fun t => t.isCompleted = true) (· = .toHex) ↔
      PublicBuilders.SignedPrivately log)
  nodeJoin : ∀ options s₀ s log,
    PublicBuilders.Builder.new (nativeModule crates multiSig)
      (PublicBuilders.nodeJoin (nativeModule crates multiSig)) options = .ok s₀ →
    Run (PublicBuilders.machine (PublicBuilders.nodeJoin (nativeModule crates multiSig))) s₀ log s →
    (SucceedsWhen (PublicBuilders.machine (PublicBuilders.nodeJoin (nativeModule crates multiSig)))
        s₀ log (fun t => t.isCompleted = true) (· = .toHex) ↔
      PublicBuilders.SignedPrivately log)
  unjail : ∀ options s₀ s log,
    PublicBuilders.Builder.new (nativeModule crates multiSig)
      (PublicBuilders.unjail (nativeModule crates multiSig)) options = .ok s₀ →
    Run (PublicBuilders.machine (PublicBuilders.unjail (nativeModule crates multiSig))) s₀ log s →
    (SucceedsWhen (PublicBuilders.machine (PublicBuilders.unjail (nativeModule crates multiSig)))
        s₀ log (fun t => t.isCompleted = true) (· = .toHex) ↔
      PublicBuilders.SignedPrivately log)

/-- A completed deposit is exported exactly when its chain id is one byte and
its witnesses decode, a withdrawal when each witness it was given decodes, and
the other three when each key pair they were given has its private key. -/
theorem completed_exports_iff (laws : ExportLaws crates)
    (haddress : ∃ address, owTendermintAddress runtime address = none) :
    ExportConditions crates multiSig runtime where
  deposit _ _ _ _ hnew _ := Deposit.exports_iff laws haddress hnew
  withdrawUnbonded _ _ _ _ hnew run := WithdrawUnbonded.exports_iff laws haddress hnew run
  unbond _ _ _ _ hnew run :=
    PublicBuilders.exports_iff laws laws.unbondTx PublicBuilders.unbond_formatted hnew run
  nodeJoin _ _ _ _ hnew run :=
    PublicBuilders.exports_iff laws laws.nodeJoinRequestTx PublicBuilders.nodeJoin_formatted hnew run
  unjail _ _ _ _ hnew run :=
    PublicBuilders.exports_iff laws laws.unjailTx PublicBuilders.unjail_formatted hnew run

theorem completed_exports_with_private_key :
    SucceedsWhen (PublicBuilders.machine (PublicBuilders.unbond Crates.Sample.module))
      PublicBuilders.Sample.start (PublicBuilders.Sample.run (Crates.Sample.keyPair 7)).1
      (fun t => t.isCompleted = true) (· = .toHex) := by
  have hconditions : ExportConditions Crates.Sample.crates Native.Sample.module.multiSig
      Native.Sample.runtime :=
    completed_exports_iff Crates.Sample.export_laws ⟨defaultTendermintAddress, by decide +kernel⟩
  apply (hconditions.unbond _ _ _ _ PublicBuilders.Sample.new_options (run_execute _ _ _)).mpr
  intro e he keyPair hcall
  obtain rfl := List.mem_singleton.mp he
  cases hcall
  rfl

/-- A builder signed with a key pair that has no private key is completed, and
its export throws. -/
theorem completed_without_private_key :
    PublicBuilders.Builder.new Crates.Sample.module
      (PublicBuilders.unbond Crates.Sample.module) PublicBuilders.Sample.options =
        .ok PublicBuilders.Sample.start ∧
    Run (PublicBuilders.machine (PublicBuilders.unbond Crates.Sample.module))
      PublicBuilders.Sample.start (PublicBuilders.Sample.run (Crates.Sample.publicKeyPair 7)).1
      (PublicBuilders.Sample.run (Crates.Sample.publicKeyPair 7)).2 ∧
    (PublicBuilders.Sample.run (Crates.Sample.publicKeyPair 7)).2.isCompleted = true ∧
    (PublicBuilders.Sample.run (Crates.Sample.publicKeyPair 7)).2.toHex =
      .error (.error "Unable to downcast private key in KeyPair: JavaScript Error") ∧
    ¬ SucceedsWhen (PublicBuilders.machine (PublicBuilders.unbond Crates.Sample.module))
      PublicBuilders.Sample.start (PublicBuilders.Sample.run (Crates.Sample.publicKeyPair 7)).1
      (fun t => t.isCompleted = true) (· = .toHex) := by
  have hrun := run_execute (PublicBuilders.machine (PublicBuilders.unbond Crates.Sample.module))
    PublicBuilders.Sample.start [.sign (Crates.Sample.publicKeyPair 7)]
  have hcompleted : (PublicBuilders.Sample.run (Crates.Sample.publicKeyPair 7)).2.isCompleted =
      true := by decide +kernel
  have hhex : (PublicBuilders.Sample.run (Crates.Sample.publicKeyPair 7)).2.toHex =
      .error (.error "Unable to downcast private key in KeyPair: JavaScript Error") := by
    decide +kernel
  refine ⟨PublicBuilders.Sample.new_options, hrun, hcompleted, hhex, ?_⟩
  intro hexports
  obtain ⟨v, hv⟩ := hexports _ _ List.suffix_rfl hrun hcompleted .toHex rfl
  rw [PublicBuilders.toHex_outcome] at hv
  obtain ⟨hex, hok, -⟩ := map_eq_ok.mp hv
  cases hhex.symm.trans hok

end ThalerNodelib.CompletedExport
