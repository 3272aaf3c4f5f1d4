import ThalerNodelib.CompletedExport

/-!
The hex of a signed transaction against that of the unsigned one. The library
puts a fixed prefix before the raw transaction; the native module decodes it,
wraps it with the witness in its enums and encodes the whole.
-/
namespace ThalerNodelib.PublicBuilders

open Js Native Network KeyPairs Runs Crates NativeExport NativeFromCrates NativeStaking

variable {crates : Crates} {multiSig : MultiSigModule} {Fields α : Type}

/-- The prefix of the kind is what the enums put before the transaction, and
the witness comes after it. -/
structure Prefixed (crates : Crates) (kind : Kind Fields) (format : TransactionFormat α)
    (publicAux : α → crates.types.StakedStateOpWitness → TxPublicAux crates.types) : Prop where
  formatted : Formatted crates kind format publicAux
  lawful : format.codec.Lawful
  layout : ∀ tx witness, crates.transactions.txAux.encode (.publicTx (publicAux tx witness)) =
    kind.encodingPrefix ++ (format.codec.encode tx ++
      crates.transactions.stakedStateOpWitness.encode witness)

section Layout
variable (laws : LayoutLaws crates.transactions)
include laws

theorem unbond_prefixed : Prefixed crates (unbond (nativeModule crates multiSig))
    crates.transactions.unbondTx .unbondStakeTx where
  formatted := unbond_formatted
  lawful := laws.unbondTx.lawful
  layout tx witness := by
    rw [laws.unbondStakeTx_encode]
    rfl

theorem nodeJoin_prefixed : Prefixed crates (nodeJoin (nativeModule crates multiSig))
    crates.transactions.nodeJoinRequestTx .nodeJoinTx where
  formatted := nodeJoin_formatted
  lawful := laws.nodeJoinRequestTx.lawful
  layout tx witness := by
    rw [laws.nodeJoinTx_encode]
    rfl

theorem unjail_prefixed : Prefixed crates (unjail (nativeModule crates multiSig))
    crates.transactions.unjailTx .unjailTx where
  formatted := unjail_formatted
  lawful := laws.unjailTx.lawful
  layout tx witness := by
    rw [laws.unjailTx_encode]
    rfl

end Layout

theorem unsignedRawTx_eq {kind : Kind Fields} {format : TransactionFormat α}
    {publicAux : α → crates.types.StakedStateOpWitness → TxPublicAux crates.types}
    (hkind : Formatted crates kind format publicAux)
    (s : Builder (nativeModule crates multiSig) kind) :
    ∃ tx, s.unsignedRawTx = format.codec.encode tx ∧ s.txId = hexEncode (format.id tx).val := by
  obtain ⟨tx, htx⟩ := hkind.raw _ _ _ s.prepared
  exact ⟨tx, congrArg RawTx.unsignedRawTx htx, congrArg RawTx.txId htx⟩

/-- A key pair with a private key signs the id of the transaction, and the
signature ends the exported hex. -/
theorem toHex_eq (laws : SigningLaws crates.keys) {kind : Kind Fields}
    {format : TransactionFormat α}
    {publicAux : α → crates.types.StakedStateOpWitness → TxPublicAux crates.types}
    (hkind : Prefixed crates kind format publicAux)
    (s : Builder (nativeModule crates multiSig) kind)
    {keyPair : KeyPair (nativeModule crates multiSig)} (h : keyPair.hasPrivateKey = true) :
    ∃ id witness, s.txId = hexEncode id.val ∧ signId crates id keyPair.toObject = .ok witness ∧
      (s.sign keyPair).toHex = .ok (s.toUnsignedHex ++
        crates.transactions.stakedStateOpWitness.encode witness) := by
  obtain ⟨tx, hraw, hid⟩ := unsignedRawTx_eq hkind.formatted s
  obtain ⟨witness, hsign⟩ := (signId_isOk_iff laws (format.id tx) keyPair).mpr h
  refine ⟨format.id tx, witness, hid, hsign, ?_⟩
  have htx : txArgument crates format (some s.unsignedRawTx) = .ok tx := by
    rw [hraw]
    exact txArgument_rawTxObject crates hkind.lawful tx
  have hhex : (s.sign keyPair).toHex = publicTransactionToHex crates format publicAux
      (some s.unsignedRawTx) keyPair.toObject := by
    rw [← hkind.formatted.signed]
    rfl
  rw [hhex, Builder.toUnsignedHex, hraw, List.append_assoc, ← hkind.layout tx witness]
  exact bind_eq_ok.mpr ⟨tx, by rwa [← hraw], bind_eq_ok.mpr ⟨witness, hsign, rfl⟩⟩

/-- In every state of a run, once signed with a key pair that has its private
key, the builder exports its unsigned hex followed by the signature of its id. -/
def SignedExtends (crates : Crates) (multiSig : MultiSigModule) (kind : Kind Fields) : Prop :=
  ∀ options s₀ s log, Builder.new (nativeModule crates multiSig) kind options = .ok s₀ →
    Run (machine kind) s₀ log s →
    ∀ keyPair : KeyPair (nativeModule crates multiSig), keyPair.hasPrivateKey = true →
    ∃ id witness unsigned,
      outcome (machine kind) (next (machine kind) s (.sign keyPair)) .txId =
        .ok (.text (hexEncode id.val)) ∧
      signId crates id keyPair.toObject = .ok witness ∧
      outcome (machine kind) (next (machine kind) s (.sign keyPair)) .toUnsignedHex =
        .ok (.buffer unsigned) ∧
      outcome (machine kind) (next (machine kind) s (.sign keyPair)) .toHex =
        .ok (.buffer (unsigned ++ crates.transactions.stakedStateOpWitness.encode witness))

theorem Prefixed.extends (laws : SigningLaws crates.keys) {kind : Kind Fields}
    {format : TransactionFormat α}
    {publicAux : α → crates.types.StakedStateOpWitness → TxPublicAux crates.types}
    (hkind : Prefixed crates kind format publicAux) : SignedExtends crates multiSig kind := by
  intro options s₀ s log hnew run keyPair hprivate
  obtain ⟨id, witness, hid, hsign, hhex⟩ := toHex_eq laws hkind s hprivate
  refine ⟨id, witness, s.toUnsignedHex, ?_, hsign, rfl, ?_⟩
  · rw [← hid]
    rfl
  · rw [toHex_outcome]
    change (s.sign keyPair).toHex.map _ = _
    rw [hhex]
    rfl

end ThalerNodelib.PublicBuilders

namespace ThalerNodelib.WithdrawUnbonded

open Js Native Network KeyPairs ThalerNodelib.Types Runs Crates FunctionTypes NativeExport
  NativeFromCrates NativeStaking

variable {crates : Crates} {multiSig : MultiSigModule} {runtime : Runtime}

/-- The bytes are those of a witness, with nothing after it. -/
def ValidWitness (crates : Crates) (bytes : Buffer) : Prop :=
  ∃ witness, crates.transactions.stakedStateOpWitness.decode bytes = .ok (witness, [])

/-- A signature, or a witness given as its bytes. -/
def SignsValidly (crates : Crates) (c : Call (nativeModule crates multiSig)) : Prop :=
  (∃ keyPair, c = .sign keyPair) ∨ ∃ witness, c = .addWitness witness ∧ ValidWitness crates witness

/-- What signing leaves: the raw transaction of the fields, and its witness. -/
theorem Step.signed (laws : LayoutLaws crates.transactions) {s t : Builder}
    {c : Call (nativeModule crates multiSig)} {v : Value} (hsigns : SignsValidly crates c)
    (h : Step (nativeModule crates multiSig) s c (.ok v) t) :
    ∃ tx witness, t.unsignedRawTx = some (crates.transactions.withdrawUnbondedTx.codec.encode tx) ∧
      t.witness = some (crates.transactions.stakedStateOpWitness.encode witness) := by
  have hsigning : c.isSigning = true := by
    rcases hsigns with ⟨keyPair, rfl⟩ | ⟨witness, rfl, -⟩ <;> rfl
  cases h with
  | addOutput output _ _ _ => cases hsigning
  | addViewKey viewKey _ => cases hsigning
  | sign keyPair rawTx bytes hb hsign =>
    obtain ⟨tx, rfl⟩ := rawTxObject_of_build hb
    obtain ⟨tx', -, hsign⟩ := bind_eq_ok.mp hsign
    obtain ⟨witness, -, hsign⟩ := bind_eq_ok.mp hsign
    obtain rfl := Except.ok.inj hsign
    exact ⟨tx, witness, rfl, rfl⟩
  | addWitness rawTx bytes hb _ =>
    obtain ⟨tx, rfl⟩ := rawTxObject_of_build hb
    rcases hsigns with ⟨keyPair, hcall⟩ | ⟨given, hcall, witness, hvalid⟩
    · cases hcall
    · cases hcall
      have hbytes := laws.stakedStateOpWitness.canonical _ _ _ hvalid
      rw [List.append_nil] at hbytes
      subst hbytes
      exact ⟨tx, witness, rfl, rfl⟩
  | kept hno => exact absurd hsigning (by simp [(hno v rfl).2])
  | filled rawTx hno _ => exact absurd hsigning (by simp [(hno v rfl).2])

/-- Right after a signature or a valid witness, the signed plain hex of the
builder is its unsigned hex followed by its witness. -/
def SignedPlainExtends (crates : Crates) (multiSig : MultiSigModule) (runtime : Runtime) : Prop :=
  ∀ options s₀ s log, WithdrawUnbondedTransactionBuilder.new options = .ok s₀ →
    Run (machine (nativeModule crates multiSig) runtime) s₀ log s →
    ∀ c, SignsValidly crates c →
    (∃ v, outcome (machine (nativeModule crates multiSig) runtime) s c = .ok v) →
    ∃ unsigned witness,
      outcome (machine (nativeModule crates multiSig) runtime)
        (next (machine (nativeModule crates multiSig) runtime) s c) .toUnsignedHex =
          .ok (.buffer unsigned) ∧
      outcome (machine (nativeModule crates multiSig) runtime)
        (next (machine (nativeModule crates multiSig) runtime) s c) (.query .getWitness) =
          .ok (.buffer witness) ∧
      outcome (machine (nativeModule crates multiSig) runtime)
        (next (machine (nativeModule crates multiSig) runtime) s c) .toSignedPlainHex =
          .ok (.buffer (unsigned ++ witness))

/-- The native module wraps the raw transaction and the witness as they are. -/
theorem signedPlainHex_encode (laws : LayoutLaws crates.transactions)
    (tx : WithdrawUnbondedTx crates.types) (witness : crates.types.StakedStateOpWitness) :
    withdrawUnbondedTransactionToSignedPlainHex crates
      (some (crates.transactions.withdrawUnbondedTx.codec.encode tx))
      (some (crates.transactions.stakedStateOpWitness.encode witness)) =
      .ok (2 :: (crates.transactions.withdrawUnbondedTx.codec.encode tx ++
        crates.transactions.stakedStateOpWitness.encode witness)) := by
  rw [← laws.withdrawUnbondedStakeTransaction_encode]
  have hwitness := laws.stakedStateOpWitness.lawful.read_encode witness
  exact bind_eq_ok.mpr ⟨tx, txArgument_rawTxObject crates laws.withdrawUnbondedTx.lawful tx,
    bind_eq_ok.mpr ⟨_, rfl, bind_eq_ok.mpr ⟨witness, chainNeon_eq_ok.mpr hwitness, rfl⟩⟩⟩

theorem signedPlainHex_extends (laws : LayoutLaws crates.transactions) :
    SignedPlainExtends crates multiSig runtime := by
  intro options s₀ s log hnew run c hsigns hok
  obtain ⟨v, hv⟩ := hok
  have hs := run_coherent (new_coherent hnew) run
  have hstep := step_of_outcome hs hv
  have ht := hstep.coherent hs
  generalize next (machine (nativeModule crates multiSig) runtime) s c = t at hstep ht
  obtain ⟨tx, witness, hraw, hwitness⟩ := hstep.signed laws hsigns
  obtain ⟨rawTx, hb, hbytes⟩ := prepared_build ht
    (by simp [WithdrawUnbondedTransactionBuilder.isRawTxPrepared, hraw])
  have hrawTx : rawTx.unsignedRawTx = crates.transactions.withdrawUnbondedTx.codec.encode tx :=
    Option.some.inj (hbytes.symm.trans hraw)
  refine ⟨bufferFromHex "0002" ++ rawTx.unsignedRawTx,
    crates.transactions.stakedStateOpWitness.encode witness, ?_, ?_, ?_⟩
  · simp only [outcome, machine, EStateM.run_bind, toUnsignedHex_run ht, hb]
    rfl
  · have hsigned : t.isSigned = true := by
      rw [WithdrawUnbondedTransactionBuilder.isSigned, hwitness]
      rfl
    have hget : t.getWitness = .ok t.witness := by
      simp [WithdrawUnbondedTransactionBuilder.getWitness, hsigned]
    simp only [outcome, machine, EStateM.run_bind, EStateM.run_get, run_call, answer, hget,
      hwitness]
    rfl
  · have hplain := signedPlainHex_encode laws tx witness
    simp only [outcome, machine, EStateM.run_bind, toSignedPlainHex_run, hwitness, hraw]
    simp only [nativeModule, hplain]
    rw [hrawTx]
    rfl

end ThalerNodelib.WithdrawUnbonded

namespace ThalerNodelib.SignedHex

open Js Native Network KeyPairs ThalerNodelib.Types Runs Crates NativeExport NativeFromCrates

variable {crates : Crates} {multiSig : MultiSigModule} {runtime : Runtime}

/-- For each of the four builders, the signed hex extends the unsigned one. -/
structure Extends (crates : Crates) (multiSig : MultiSigModule) (runtime : Runtime) : Prop where
  unbond : PublicBuilders.SignedExtends crates multiSig
    (PublicBuilders.unbond (nativeModule crates multiSig))
  nodeJoin : PublicBuilders.SignedExtends crates multiSig
    (PublicBuilders.nodeJoin (nativeModule crates multiSig))
  unjail : PublicBuilders.SignedExtends crates multiSig
    (PublicBuilders.unjail (nativeModule crates multiSig))
  withdrawUnbonded : WithdrawUnbonded.SignedPlainExtends crates multiSig runtime

/-- Signed hex is unsigned hex followed by exactly the witness. -/
theorem signed_extends_unsigned (signing : SigningLaws crates.keys)
    (layout : LayoutLaws crates.transactions) : Extends crates multiSig runtime where
  unbond := (PublicBuilders.unbond_prefixed layout).extends signing
  nodeJoin := (PublicBuilders.nodeJoin_prefixed layout).extends signing
  unjail := (PublicBuilders.unjail_prefixed layout).extends signing
  withdrawUnbonded := WithdrawUnbonded.signedPlainHex_extends layout

namespace Sample

/-- An output to an address of Mainnet, with a lock time. -/
def output : Output := ⟨Crates.Sample.transferAddress 7, .ofNat 5, some ⟨2, by decide⟩⟩

/-- A withdrawal on the sample crates with one output. -/
def run : Log JsError WithdrawUnbonded.Builder (WithdrawUnbonded.Call Crates.Sample.module)
    WithdrawUnbonded.Value × WithdrawUnbonded.Builder :=
  execute (WithdrawUnbonded.machine Crates.Sample.module Native.Sample.runtime)
    WithdrawUnbonded.Sample.start [.addOutput output]

theorem sign_isOk : (outcome (WithdrawUnbonded.machine Crates.Sample.module Native.Sample.runtime)
    run.2 (.sign (Crates.Sample.keyPair 7))).toOption.isSome = true := by decide +kernel

end Sample

theorem signed_extends_unsigned_sample :
    (∃ id witness unsigned,
      outcome (PublicBuilders.machine (PublicBuilders.unbond Crates.Sample.module))
        (PublicBuilders.Sample.run (Crates.Sample.keyPair 7)).2 .txId =
          .ok (.text (hexEncode id.val)) ∧
      NativeStaking.signId Crates.Sample.crates id (Crates.Sample.keyPair 7).toObject =
        .ok witness ∧
      outcome (PublicBuilders.machine (PublicBuilders.unbond Crates.Sample.module))
        (PublicBuilders.Sample.run (Crates.Sample.keyPair 7)).2 .toUnsignedHex =
          .ok (.buffer unsigned) ∧
      outcome (PublicBuilders.machine (PublicBuilders.unbond Crates.Sample.module))
        (PublicBuilders.Sample.run (Crates.Sample.keyPair 7)).2 .toHex =
          .ok (.buffer (unsigned ++ Crates.Sample.stakedStateOpWitness.encode witness))) ∧
    ∃ unsigned witness,
      outcome (WithdrawUnbonded.machine Crates.Sample.module Native.Sample.runtime)
        (next (WithdrawUnbonded.machine Crates.Sample.module Native.Sample.runtime)
          Sample.run.2 (.sign (Crates.Sample.keyPair 7))) .toUnsignedHex =
          .ok (.buffer unsigned) ∧
      outcome (WithdrawUnbonded.machine Crates.Sample.module Native.Sample.runtime)
        (next (WithdrawUnbonded.machine Crates.Sample.module Native.Sample.runtime)
          Sample.run.2 (.sign (Crates.Sample.keyPair 7))) (.query .getWitness) =
          .ok (.buffer witness) ∧
      outcome (WithdrawUnbonded.machine Crates.Sample.module Native.Sample.runtime)
        (next (WithdrawUnbonded.machine Crates.Sample.module Native.Sample.runtime)
          Sample.run.2 (.sign (Crates.Sample.keyPair 7))) .toSignedPlainHex =
          .ok (.buffer (unsigned ++ witness)) := by
  have hextends : Extends Crates.Sample.crates Native.Sample.module.multiSig
      Native.Sample.runtime :=
    signed_extends_unsigned Crates.Sample.signing_laws Crates.Sample.layout_laws
  refine ⟨?_, ?_⟩
  · exact hextends.unbond _ _ _ _ PublicBuilders.Sample.new_options .start
      (Crates.Sample.keyPair 7) rfl
  · exact hextends.withdrawUnbonded _ _ _ _ WithdrawUnbonded.Sample.new_options
      (run_execute _ _ _) (.sign (Crates.Sample.keyPair 7)) (Or.inl ⟨_, rfl⟩)
      ⟨_, eq_ok_of_isSome Sample.sign_isOk⟩

end ThalerNodelib.SignedHex
