import Mathlib.Data.List.Perm.Basic
import ThalerNodelib.TransferPayload

/-!
The builder of transfer transactions does not depend on the order in which its
calls are interleaved. What is signed before the last addition is discarded,
and the signatures after it go to different inputs of one transaction, so that
their witnesses are the same in any order.
-/
namespace ThalerNodelib.Transfer

open Js Native Network KeyPairs ThalerNodelib.Types Runs Crates FunctionTypes NativeStaking
  NativeTransfer NativeFromCrates

/-! Witnesses put into a list. -/

def place {β : Type} (witnesses : List (Option β)) (placed : ℕ × β) : List (Option β) :=
  witnesses.set placed.1 (some placed.2)

/-- Witnesses at different indexes are placed in any order. -/
theorem place_perm {β : Type} {placed placed' : List (ℕ × β)} (h : placed.Perm placed')
    (hdistinct : (placed.map Prod.fst).Nodup) (witnesses : List (Option β)) :
    placed.foldl place witnesses = placed'.foldl place witnesses := by
  refine h.foldl_eq' ?_ witnesses
  intro x hx y hy z
  by_cases hxy : x = y
  · rw [hxy]
  · have hindex : x.1 ≠ y.1 := fun hindex => hxy (List.inj_on_of_nodup_map hdistinct hx hy hindex)
    exact List.set_comm (some x.2) (some y.2) hindex

variable {crates : Crates} {multiSig : MultiSigModule} {native : NativeModule} {runtime : Runtime}

/-- The index and the key pair of a signature. -/
def Call.signature : Call native → Option (JsNumber × KeyPair native)
  | .signInput index keyPair => some (index, keyPair)
  | _ => none

/-- What may be called after the last addition: signatures and queries. -/
def Call.isFinal : Call native → Bool
  | .signInput _ _ => true
  | .query _ => true
  | _ => false

/-- The witness that a signature puts at its index. -/
def PlacedBy (crates : Crates) (id : H256)
    (signature : JsNumber × KeyPair (nativeModule crates multiSig))
    (placed : ℕ × crates.types.TxInWitness) : Prop :=
  signature.1 = .ofNat placed.1 ∧ Signs crates signature.2.toObject id placed.2

/-- A signature is determined by the key pair and the id. -/
theorem Signs.unique {keyPair : NativeKeyPair} {id : H256}
    {witness witness' : crates.types.TxInWitness} (h : Signs crates keyPair id witness)
    (h' : Signs crates keyPair id witness') : witness = witness' := by
  obtain ⟨privateKey, publicKey, signer, hkeys, hsigner, hwitness⟩ := h
  obtain ⟨privateKey', publicKey', signer', hkeys', hsigner', hwitness'⟩ := h'
  obtain ⟨rfl, rfl⟩ := Prod.mk.inj (ok_unique hkeys hkeys')
  obtain rfl := ok_unique hsigner hsigner'
  exact ok_unique hwitness hwitness'

theorem placedBy_rightUnique (id : H256) :
    Relator.RightUnique (PlacedBy crates id : JsNumber × KeyPair (nativeModule crates multiSig) →
      ℕ × crates.types.TxInWitness → Prop) := by
  intro signature placed placed' h h'
  exact Prod.ext (JsNumber.ofNat_inj.mp (h.1.symm.trans h'.1)) (h.2.unique h'.2)

/-- Different signed indexes are different indexes of witnesses. -/
theorem distinct_of_placedBy {id : H256}
    {signatures : List (JsNumber × KeyPair (nativeModule crates multiSig))}
    {placed : List (ℕ × crates.types.TxInWitness)}
    (h : List.Forall₂ (PlacedBy crates id) signatures placed)
    (hdistinct : (signatures.map Prod.fst).Nodup) : (placed.map Prod.fst).Nodup := by
  have hmap : signatures.map Prod.fst = (placed.map Prod.fst).map JsNumber.ofNat := by
    induction h with
    | nil => rfl
    | cons hplaced _ ih =>
      simp only [List.map_cons, hplaced.1]
      rw [ih (List.nodup_cons.mp hdistinct).2]
  rw [hmap] at hdistinct
  exact hdistinct.of_map _

section Signed
variable (contents : crates.core.Builder → RawContents crates.types)
  (witnesses : crates.core.Builder → List (Option crates.types.TxInWitness))

/-- The transaction is the one built from the lists of the builder, with the
witnesses of the signatures placed in order. -/
def SignedHex (s : Builder) (signatures : List (JsNumber × KeyPair (nativeModule crates multiSig)))
    (incompleteHex : Buffer) : Prop :=
  ∃ unsigned raw placed,
    s.buildIncompleteHex (nativeModule crates multiSig) = .ok (crates.core.toIncomplete unsigned) ∧
    Decodes contents witnesses s (crates.core.toIncomplete unsigned) unsigned ∧
    incompleteHex = crates.core.toIncomplete raw ∧ contents raw = contents unsigned ∧
    witnesses raw = placed.foldl place (witnesses unsigned) ∧
    List.Forall₂ (PlacedBy crates (crates.core.txId unsigned)) signatures placed

/-- The second builder is the first after the signatures. -/
structure SignedFrom (u s : Builder)
    (signatures : List (JsNumber × KeyPair (nativeModule crates multiSig))) : Prop where
  unsigned : signatures = [] → s = u
  signed : signatures ≠ [] → ∃ incompleteHex, s = u.setIncompleteHex incompleteHex
  hex : ∀ incompleteHex, s.toIncompleteHex (nativeModule crates multiSig) = .ok incompleteHex →
    SignedHex contents witnesses u signatures incompleteHex

end Signed

variable {contents : crates.core.Builder → RawContents crates.types}
  {witnesses : crates.core.Builder → List (Option crates.types.TxInWitness)}

/-- The two builders differ in the stored transaction only. -/
theorem SignedFrom.setIncompleteHex_eq {u s : Builder}
    {signatures : List (JsNumber × KeyPair (nativeModule crates multiSig))}
    (hs : SignedFrom contents witnesses u s signatures) (incompleteHex : Buffer) :
    s.setIncompleteHex incompleteHex = u.setIncompleteHex incompleteHex := by
  by_cases hnil : signatures = []
  · rw [hs.unsigned hnil]
  · obtain ⟨stored, rfl⟩ := hs.signed hnil
    rfl

section Laws
variable (laws : RawBuilderLaws crates.core crates.transactions contents witnesses)
include laws

theorem SignedFrom.start {u : Builder} (h : u.incompleteHex = none) :
    SignedFrom contents witnesses u u
      ([] : List (JsNumber × KeyPair (nativeModule crates multiSig))) where
  unsigned _ := rfl
  signed h := absurd rfl h
  hex incompleteHex hhex := by
    rw [TransferTransactionBuilder.toIncompleteHex, h] at hhex
    obtain ⟨unsigned, rfl, hdecodes, -⟩ := built_decodes laws hhex
    exact ⟨unsigned, unsigned, [], hhex, hdecodes, rfl, rfl, rfl, .nil⟩

/-- What a signature adds to the signatures before it. -/
theorem SignedHex.sign {u : Builder}
    {signatures : List (JsNumber × KeyPair (nativeModule crates multiSig))}
    {incompleteHex updated : Buffer} (h : SignedHex contents witnesses u signatures incompleteHex)
    {index : JsNumber} {keyPair : KeyPair (nativeModule crates multiSig)}
    (hsign : signInputLinearFee crates ⟨some incompleteHex, u.nativeFeeConfig⟩ index
      keyPair.toObject = .ok updated) :
    SignedHex contents witnesses u (signatures ++ [(index, keyPair)]) updated := by
  obtain ⟨unsigned, raw, placed, hbuilt, hdecodes, rfl, hcontents, hwitnesses, hplaced⟩ := h
  obtain ⟨raw', i, witness, extended, hraw, hi, hsigns, hadd, rfl⟩ := signInputLinearFee_eq_ok hsign
  have hfee : parseLinearFeeConfig crates u.nativeFeeConfig = .ok (contents raw).fee := by
    rw [hcontents]
    exact hdecodes.marshalled.fee
  obtain rfl : raw' = raw := ok_unique hraw (argument_toIncomplete laws hfee)
  obtain ⟨-, hset⟩ := laws.addWitness_witnesses _ _ _ _ hadd
  refine ⟨unsigned, extended, placed ++ [(i, witness)], hbuilt, hdecodes, rfl,
    (laws.addWitness_contents _ _ _ _ hadd).trans hcontents, ?_, ?_⟩
  · rw [hset, hwitnesses, List.foldl_append]
    rfl
  · rw [laws.txId_contents _ _ hcontents] at hsigns
    exact List.rel_append hplaced (.cons ⟨JsNumber.arrayIndex_eq_some hi, hsigns⟩ .nil)

theorem SignedFrom.step {u s t : Builder}
    {signatures : List (JsNumber × KeyPair (nativeModule crates multiSig))}
    {c : Call (nativeModule crates multiSig)} {v : Value}
    (hs : SignedFrom contents witnesses u s signatures)
    (h : Step (nativeModule crates multiSig) s c (.ok v) t) (hc : c.isFinal = true) :
    SignedFrom contents witnesses u t (signatures ++ c.signature.toList) := by
  cases h with
  | addInput _ _ _ => cases hc
  | addOutput _ _ _ => cases hc
  | addViewKey _ _ => cases hc
  | addWitness _ _ _ _ _ _ _ => cases hc
  | signInput index keyPair incompleteHex updated hverify hhex hsign =>
    have hset := hs.setIncompleteHex_eq updated
    have hfee := congrArg TransferTransactionBuilder.nativeFeeConfig hset
    change s.nativeFeeConfig = u.nativeFeeConfig at hfee
    rw [hfee] at hsign
    have hupdated := (hs.hex incompleteHex hhex).sign laws hsign
    refine ⟨fun hnil => absurd hnil (List.append_ne_nil_of_right_ne_nil _ (List.cons_ne_nil _ _)),
      fun _ => ⟨updated, hset⟩, fun stored hstored => ?_⟩
    obtain rfl : updated = stored := Except.ok.inj hstored
    exact hupdated
  | kept hno =>
    have hnone : c.signature = none := by
      cases c with
      | signInput index keyPair => cases (hno v rfl).2
      | _ => rfl
    rw [hnone, Option.toList_none, List.append_nil]
    exact hs

theorem run_signedFrom {u s : Builder}
    {log : Log JsError Builder (Call (nativeModule crates multiSig)) Value}
    (hu : u.incompleteHex = none)
    (run : Run (machine (nativeModule crates multiSig) runtime) u log s)
    (hlog : ∀ e ∈ log, e.succeeded = true ∧ e.call.isFinal = true) :
    SignedFrom contents witnesses u s (accepted Call.signature log) := by
  induction run with
  | start => exact .start laws hu
  | @call log s c run ih =>
    obtain ⟨hok, hfinal⟩ := hlog _ (List.mem_cons_self ..)
    have hs := ih fun e he => hlog e (List.mem_cons_of_mem _ he)
    obtain ⟨v, hv⟩ := (Entry.succeeded_iff _).mp hok
    rw [accepted_cons, if_pos hok]
    exact hs.step laws (step_of_outcome hv) hfinal

end Laws

/-- Signatures at different indexes give one builder in any order. -/
theorem SignedFrom.unique {u s s' : Builder}
    (hext : ∀ raw raw', contents raw = contents raw' → witnesses raw = witnesses raw' → raw = raw')
    {signatures signatures' : List (JsNumber × KeyPair (nativeModule crates multiSig))}
    (hs : SignedFrom contents witnesses u s signatures)
    (hs' : SignedFrom contents witnesses u s' signatures') (hperm : signatures.Perm signatures')
    (hdistinct : (signatures.map Prod.fst).Nodup) : s = s' := by
  by_cases hnil : signatures = []
  · have hnil' : signatures' = [] := List.Perm.nil_eq (hnil ▸ hperm) |>.symm
    rw [hs.unsigned hnil, hs'.unsigned hnil']
  · have hnil' : signatures' ≠ [] := fun h => hnil (List.Perm.eq_nil (h ▸ hperm))
    obtain ⟨incompleteHex, rfl⟩ := hs.signed hnil
    obtain ⟨incompleteHex', rfl⟩ := hs'.signed hnil'
    obtain ⟨unsigned, raw, placed, hbuilt, hdecodes, rfl, hcontents, hwitnesses, hplaced⟩ :=
      hs.hex incompleteHex rfl
    obtain ⟨unsigned', raw', placed', hbuilt', hdecodes', rfl, hcontents', hwitnesses', hplaced'⟩ :=
      hs'.hex incompleteHex' rfl
    have hsame := ok_unique hbuilt hbuilt'
    obtain rfl : unsigned = unsigned' := by
      have hdecoded := hdecodes.decoded
      rw [hsame] at hdecoded
      exact ok_unique hdecoded hdecodes'.decoded
    have hplaces : placed.Perm placed' :=
      List.rel_perm_imp (placedBy_rightUnique _) hplaced hplaced' hperm
    obtain rfl : raw = raw' := by
      refine hext raw raw' (hcontents.trans hcontents'.symm) ?_
      rw [hwitnesses, hwitnesses']
      exact place_perm hplaces (distinct_of_placedBy hplaced hdistinct) _
    rfl

/-- Successful calls, newest first, with the signatures after the last addition. -/
structure Sequence (log : Log JsError Builder (Call native) Value)
    (signatures : List (JsNumber × KeyPair native)) : Prop where
  succeeded : ∀ e ∈ log, e.succeeded = true
  parts : ∃ later earlier, log = later ++ earlier ∧
    (earlier = [] ∨ ∃ e older, earlier = e :: older ∧ e.call.isAddition = true) ∧
    (∀ e ∈ later, e.call.isFinal = true) ∧ accepted Call.signature later = signatures

theorem unsigned_of_addition {s₀ s : Builder} {e : Entry JsError Builder (Call native) Value}
    {log : Log JsError Builder (Call native) Value}
    (run : Run (machine native runtime) s₀ (e :: log) s) (hok : e.succeeded = true)
    (hadds : e.call.isAddition = true) : s.incompleteHex = none := by
  cases run with
  | @call _ s c run =>
    obtain ⟨v, hv⟩ := (Entry.succeeded_iff _).mp hok
    have hstep := step_of_outcome hv
    generalize next (machine native runtime) s c = t at hstep ⊢
    cases hstep with
    | addInput _ _ _ => rfl
    | addOutput _ _ _ => rfl
    | addViewKey _ _ => rfl
    | signInput _ _ _ _ _ _ _ => cases hadds
    | addWitness _ _ _ _ _ _ _ => cases hadds
    | kept hno =>
      change c.isAddition = true at hadds
      rw [(hno v rfl).1] at hadds
      cases hadds

/-- The last builder of the sequence is that of the last addition, signed. -/
theorem Sequence.signedFrom
    (laws : RawBuilderLaws crates.core crates.transactions contents witnesses)
    {options : Option TransferTransactionBuilderOptions} {s₀ s : Builder}
    {log : Log JsError Builder (Call (nativeModule crates multiSig)) Value}
    {signatures : List (JsNumber × KeyPair (nativeModule crates multiSig))}
    (h : Sequence log signatures) (hnew : TransferTransactionBuilder.new options = .ok s₀)
    (run : Run (machine (nativeModule crates multiSig) runtime) s₀ log s) :
    SignedFrom contents witnesses s.clearIncompleteSigningHex s signatures := by
  obtain ⟨later, earlier, rfl, hadded, hfinal, rfl⟩ := h.parts
  obtain ⟨u, hearlier, hlater⟩ := run.split later
  have hu : u.incompleteHex = none := by
    rcases hadded with rfl | ⟨e, older, rfl, hadds⟩
    · cases hearlier
      obtain ⟨_, rfl⟩ := TransferTransactionBuilder.new_eq_ok.mp hnew
      rfl
    · exact unsigned_of_addition hearlier
        (h.succeeded e (List.mem_append_right _ (List.mem_cons_self ..))) hadds
  have hsigned := run_signedFrom laws hu hlater fun e he =>
    ⟨h.succeeded e (List.mem_append_left _ he), hfinal e he⟩
  have hclear : s.clearIncompleteSigningHex = u := by
    have hsame := congrArg TransferTransactionBuilder.clearIncompleteSigningHex
      (hsigned.setIncompleteHex_eq [])
    change s.clearIncompleteSigningHex = u.clearIncompleteSigningHex at hsame
    rw [hsame, TransferTransactionBuilder.clearIncompleteSigningHex, ← hu]
  rw [hclear]
  exact hsigned

theorem clear_eq {s s' : Builder} (hnetwork : s.network = s'.network)
    (hinputs : s.inputs = s'.inputs) (houtputs : s.outputs = s'.outputs)
    (hviewKeys : s.viewKeys = s'.viewKeys) :
    s.clearIncompleteSigningHex = s'.clearIncompleteSigningHex := by
  cases s
  cases s'
  subst hnetwork hinputs houtputs hviewKeys
  rfl

/-- Two successful call sequences with the same additions of each kind in the same
order, and the same signatures of different inputs after them, leave builders that
answer every query alike. -/
theorem order_independent
    (laws : RawBuilderLaws crates.core crates.transactions contents witnesses)
    (hext : ∀ raw raw', contents raw = contents raw' → witnesses raw = witnesses raw' → raw = raw')
    {options options' : Option TransferTransactionBuilderOptions} {s₀ s₀' s s' : Builder}
    {log log' : Log JsError Builder (Call (nativeModule crates multiSig)) Value}
    {signatures signatures' : List (JsNumber × KeyPair (nativeModule crates multiSig))}
    (hnew : TransferTransactionBuilder.new options = .ok s₀)
    (hnew' : TransferTransactionBuilder.new options' = .ok s₀')
    (hnetwork : s₀.network = s₀'.network)
    (run : Run (machine (nativeModule crates multiSig) runtime) s₀ log s)
    (run' : Run (machine (nativeModule crates multiSig) runtime) s₀' log' s')
    (h : Sequence log signatures) (h' : Sequence log' signatures')
    (hinputs : accepted Call.input log = accepted Call.input log')
    (houtputs : accepted Call.output log = accepted Call.output log')
    (hviewKeys : accepted Call.viewKey log = accepted Call.viewKey log')
    (hperm : signatures.Perm signatures') (hdistinct : (signatures.map Prod.fst).Nodup) :
    ∀ q, outcome (machine (nativeModule crates multiSig) runtime) s (.query q) =
      outcome (machine (nativeModule crates multiSig) runtime) s' (.query q) := by
  have hs := (History.start hnew).run run
  have hs' := (History.start hnew').run run'
  have hclear : s.clearIncompleteSigningHex = s'.clearIncompleteSigningHex := by
    apply clear_eq
    · rw [hs.network, hs'.network, hnetwork]
    · rw [hs.inputs, hs'.inputs, hinputs]
    · rw [hs.outputs, hs'.outputs, houtputs]
    · rw [hs.viewKeys, hs'.viewKeys, hviewKeys]
  have hsigned := h.signedFrom laws hnew run
  have hsigned' := h'.signedFrom laws hnew' run'
  rw [← hclear] at hsigned'
  have hstates := hsigned.unique hext hsigned' hperm hdistinct
  intro q
  rw [hstates]

namespace Sample

/-- Inputs of two keys and an output, then both signatures. -/
def inputsFirst : Log JsError Builder (Call Crates.Sample.module) Value × Builder :=
  run [.addInput (input 7 1 1), .addInput (input 8 1 1), .addOutput output,
    .signInput (.ofNat 0) (Crates.Sample.keyPair 7), .signInput (.ofNat 1) (Crates.Sample.keyPair 8)]

/-- The same around a signature that is discarded, signed the other way round. -/
def outputFirst : Log JsError Builder (Call Crates.Sample.module) Value × Builder :=
  run [.addOutput output, .addInput (input 7 1 1),
    .signInput (.ofNat 0) (Crates.Sample.keyPair 7), .addInput (input 8 1 1),
    .signInput (.ofNat 1) (Crates.Sample.keyPair 8), .signInput (.ofNat 0) (Crates.Sample.keyPair 7)]

theorem inputsFirst_succeeded : ∀ e ∈ inputsFirst.1, e.succeeded = true := by decide +kernel

theorem outputFirst_succeeded : ∀ e ∈ outputFirst.1, e.succeeded = true := by decide +kernel

/-- The last two calls of a run are its signatures when they and the one before say so. -/
theorem sequence {log : Log JsError Builder (Call Crates.Sample.module) Value}
    (hok : ∀ e ∈ log, e.succeeded = true) {e : Entry JsError Builder (Call Crates.Sample.module) Value}
    {older : Log JsError Builder (Call Crates.Sample.module) Value} (hlog : log.drop 2 = e :: older)
    (hadds : e.call.isAddition = true) (hfinal : ∀ e ∈ log.take 2, e.call.isFinal = true) :
    Sequence log ((log.take 2).reverse.filterMap fun e => e.call.signature) :=
  ⟨hok, log.take 2, log.drop 2, (List.take_append_drop 2 log).symm, Or.inr ⟨e, older, hlog, hadds⟩,
    hfinal, accepted_of_succeeded _ fun e he => hok e (List.mem_of_mem_take he)⟩

theorem accepted_eq {α : Type} (part : Call Crates.Sample.module → Option α)
    (h : (inputsFirst.1.reverse.filterMap fun e => part e.call) =
      outputFirst.1.reverse.filterMap fun e => part e.call) :
    accepted part inputsFirst.1 = accepted part outputFirst.1 := by
  rw [accepted_of_succeeded _ inputsFirst_succeeded, accepted_of_succeeded _ outputFirst_succeeded, h]

end Sample

theorem order_independent_two_signatures :
    outcome (machine Crates.Sample.module Native.Sample.runtime) Sample.inputsFirst.2
          (.query .toIncompleteHex) =
        outcome (machine Crates.Sample.module Native.Sample.runtime) Sample.outputFirst.2
          (.query .toIncompleteHex) ∧
      outcome (machine Crates.Sample.module Native.Sample.runtime) Sample.inputsFirst.2
          (.query .isCompleted) =
        outcome (machine Crates.Sample.module Native.Sample.runtime) Sample.outputFirst.2
          (.query .isCompleted) := by
  have hqueries := order_independent Crates.Sample.raw_builder_laws (fun _ _ => Prod.ext)
    Sample.new_options Sample.new_options rfl (run_execute _ _ _) (run_execute _ _ _)
    (Sample.sequence Sample.inputsFirst_succeeded rfl rfl (by decide +kernel))
    (Sample.sequence Sample.outputFirst_succeeded rfl rfl (by decide +kernel))
    (Sample.accepted_eq Call.input rfl) (Sample.accepted_eq Call.output rfl)
    (Sample.accepted_eq Call.viewKey rfl) (List.Perm.swap _ _ []) (by decide +kernel)
  exact ⟨hqueries .toIncompleteHex, hqueries .isCompleted⟩

end ThalerNodelib.Transfer
