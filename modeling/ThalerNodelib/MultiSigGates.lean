import ThalerNodelib.MultiSigHistory
import Mathlib.Data.List.Nodup
import Mathlib.Data.List.Perm.Subperm
import Mathlib.Data.List.Count

/-!
The three gates of a session against the signers who contributed. A gate
compares a number of values with the number of co-signers, so in a run it is
exact as long as no more than one value for each co-signer was added. The keys
that buffers denote are compared through any function `key`.
-/
namespace ThalerNodelib.MultiSig

open Js Native KeyPairs Runs

variable {native : NativeModule} {K : Type} (key : Buffer → K)

/-- The public key and the value that a call adds in a phase, if it succeeds. -/
def Call.addition (phase : Phase) (c : Call) : Option (Argument × BufferObject) :=
  match phase, c with
  | .nonceCommitment, .addNonceCommitment publicKey (some value) => some (publicKey, value)
  | .nonce, .addNonce publicKey (some value) => some (publicKey, value)
  | .partialSignature, .addPartialSignature publicKey (some value) => some (publicKey, value)
  | _, _ => none

/-- The additions of a phase that were accepted, oldest first. -/
def additions (phase : Phase) (log : List (Event native)) : List (Argument × BufferObject) :=
  accepted (Call.addition phase) log

/-- The signer keys other than the session's own. -/
def MultiSigSession.coSigners [DecidableEq K] (s : Session native) : List Buffer :=
  s.signerPublicKeys.filter fun signer => s.keyPair.publicKey.map key ≠ some (key signer)

/-- The keys for which a value of the phase was accepted. -/
def contributors (phase : Phase) (log : List (Event native)) : List K :=
  (additions phase log).filterMap fun addition => addition.1.map fun object => key object.bytes

/-- A value of the phase was accepted for every signer key but the session's own. -/
def Held [DecidableEq K] (s₀ : Session native) (phase : Phase) (log : List (Event native)) : Prop :=
  ∀ signer ∈ s₀.coSigners key, key signer ∈ contributors key phase log

theorem added_eq_addition (phase : Phase) (c : Call) :
    c.added phase = (c.addition phase).map Prod.snd := by
  cases phase <;> cases c with
  | addNonceCommitment publicKey value => cases value <;> rfl
  | addNonce publicKey value => cases value <;> rfl
  | addPartialSignature publicKey value => cases value <;> rfl
  | _ => rfl

theorem accepted_added (phase : Phase) (log : List (Event native)) :
    accepted (Call.added phase) log = (additions phase log).map Prod.snd := by
  simp only [accepted, additions, List.map_filterMap, added_eq_addition]

theorem additions_suffix {older log : List (Event native)} (h : older <:+ log) (phase : Phase) :
    additions phase older <+: additions phase log := by
  obtain ⟨newer, rfl⟩ := h
  simp [additions, accepted, List.filter_append, List.filterMap_append]

theorem contributors_suffix {older log : List (Event native)} (h : older <:+ log) (phase : Phase) :
    contributors key phase older ⊆ contributors key phase log := by
  intro k hk
  obtain ⟨rest, hrest⟩ := additions_suffix h phase
  rw [contributors, ← hrest, List.filterMap_append]
  exact List.mem_append_left _ hk

instance [DecidableEq K] (s₀ : Session native) (phase : Phase) (log : List (Event native)) :
    Decidable (Held key s₀ phase log) :=
  inferInstanceAs (Decidable (∀ signer ∈ s₀.coSigners key, key signer ∈ contributors key phase log))

theorem Held.mono [DecidableEq K] {s₀ : Session native} {phase : Phase} {older log : List (Event native)}
    (h : older <:+ log) (hheld : Held key s₀ phase older) : Held key s₀ phase log :=
  fun signer hsigner => contributors_suffix key h phase (hheld signer hsigner)

theorem contributors_length (phase : Phase) (log : List (Event native)) :
    (contributors key phase log).length ≤ (additions phase log).length :=
  List.length_filterMap_le _ _

variable [DecidableEq K]

/-- Of distinct signers at most one is the session itself. -/
theorem coSigners_length (s₀ : Session native) (hdistinct : (s₀.signerPublicKeys.map key).Nodup) :
    s₀.totalExternalCoSigners ≤ (s₀.coSigners key).length := by
  have haux : ∀ signers : List Buffer, (signers.map key).Nodup →
      signers.length - 1 ≤ (signers.filter fun signer =>
        decide (s₀.keyPair.publicKey.map key ≠ some (key signer))).length := by
    intro signers
    induction signers with
    | nil => simp
    | cons signer rest ih =>
      intro hnodup
      rw [List.map_cons, List.nodup_cons] at hnodup
      by_cases hown : s₀.keyPair.publicKey.map key = some (key signer)
      · have hall : ∀ other ∈ rest,
            decide (s₀.keyPair.publicKey.map key ≠ some (key other)) = true := by
          intro other hother
          rw [decide_eq_true_eq, hown]
          intro heq
          apply hnodup.1
          rw [Option.some.inj heq]
          exact List.mem_map_of_mem hother
        rw [List.filter_cons_of_neg (by simpa using hown), List.filter_eq_self.mpr hall]
        simp
      · have hrest := ih hnodup.2
        rw [List.filter_cons_of_pos (by simpa using hown)]
        simp only [List.length_cons]
        omega
  exact haux s₀.signerPublicKeys hdistinct

/-- Fewer values than co-signers were added, or one for each co-signer. -/
def InStep (s₀ : Session native) (phase : Phase) (log : List (Event native)) : Prop :=
  (additions phase log).length < s₀.totalExternalCoSigners ∨
    (additions phase log).length = s₀.totalExternalCoSigners ∧
      (contributors key phase log).Perm ((s₀.coSigners key).map key)

instance (s₀ : Session native) (phase : Phase) (log : List (Event native)) :
    Decidable (InStep key s₀ phase log) := inferInstanceAs (Decidable (_ ∨ _ ∧ _))

theorem coSigners_nodup {s₀ : Session native} (hdistinct : (s₀.signerPublicKeys.map key).Nodup) :
    ((s₀.coSigners key).map key).Nodup :=
  hdistinct.sublist (List.filter_sublist.map key)

/-- Too few values cannot cover the co-signers. -/
theorem held_length {s₀ : Session native} (hdistinct : (s₀.signerPublicKeys.map key).Nodup)
    {phase : Phase} {log : List (Event native)} (hheld : Held key s₀ phase log) :
    (s₀.coSigners key).length ≤ (contributors key phase log).length := by
  have hsubset : (s₀.coSigners key).map key ⊆ contributors key phase log := by
    intro k hk
    obtain ⟨signer, hsigner, rfl⟩ := List.mem_map.mp hk
    exact hheld signer hsigner
  have hsub := (coSigners_nodup key hdistinct).subperm hsubset
  simpa using hsub.length_le

theorem held_iff_perm {s₀ : Session native} (hdistinct : (s₀.signerPublicKeys.map key).Nodup)
    {phase : Phase} {log : List (Event native)}
    (hlen : (additions phase log).length = s₀.totalExternalCoSigners) :
    Held key s₀ phase log ↔
      (contributors key phase log).Perm ((s₀.coSigners key).map key) := by
  constructor
  · intro hheld
    have hsubset : (s₀.coSigners key).map key ⊆ contributors key phase log := by
      intro k hk
      obtain ⟨signer, hsigner, rfl⟩ := List.mem_map.mp hk
      exact hheld signer hsigner
    have hsub := (coSigners_nodup key hdistinct).subperm hsubset
    refine (hsub.perm_of_length_le ?_).symm
    have hcontributors := contributors_length key phase log
    have hco := coSigners_length key s₀ hdistinct
    rw [List.length_map]
    omega
  · intro hperm signer hsigner
    exact hperm.mem_iff.mpr (List.mem_map_of_mem hsigner)

/-- What every state of a run shares with the first one. -/
structure Fixed (s₀ : Session native) (log : List (Event native)) (s : Session native) : Prop where
  signers : s.signerPublicKeys = s₀.signerPublicKeys
  keyPair : s.keyPair = s₀.keyPair
  cached : ∀ phase, (s.cached phase).length = (additions phase log).length

theorem Step.signerPublicKeys {s t : Session native} {c : Call} {v : Value}
    (h : Step native s c v t) :
    t.signerPublicKeys = s.signerPublicKeys ∧ t.keyPair = s.keyPair := by
  cases h with
  | read _ _ _ => exact ⟨rfl, rfl⟩
  | generated phase value session _ _ => cases phase <;> exact ⟨rfl, rfl⟩
  | added phase publicKey value session _ _ => cases phase <;> exact ⟨rfl, rfl⟩
  | signed signature _ _ => exact ⟨rfl, rfl⟩

/-- What no step of a session changes is the same all through a run. -/
theorem run_keeps {α : Type} {s₀ s : Session native} {log : List (Event native)}
    (f : Session native → α) (hstep : ∀ s t c v, Step native s c v t → f t = f s)
    (run : Run (machine native) s₀ log s) : f s = f s₀ := by
  refine run.state_invariant (fun t => f t = f s₀) rfl ?_
  intro t c h
  cases hout : outcome (machine native) t c with
  | error e => rwa [throw_keeps hout]
  | ok v => exact (hstep _ _ _ _ (step_of_ok hout)).trans h

theorem Fixed.run {message : String} {keyPair : KeyPair native} {signerPublicKeys : List Buffer}
    {s₀ s : Session native} {log : List (Event native)}
    (hnew : new native message keyPair signerPublicKeys = .ok s₀)
    (run : Run (machine native) s₀ log s) : Fixed s₀ log s := by
  have hsigners := run_keeps (fun t => t.signerPublicKeys)
    (fun _ _ _ _ h => h.signerPublicKeys.1) run
  have hkeyPair := run_keeps (fun t => t.keyPair) (fun _ _ _ _ h => h.signerPublicKeys.2) run
  refine ⟨hsigners, hkeyPair, ?_⟩
  intro phase
  rw [((Refines.start hnew).run run).cached phase, accepted_added, List.length_map]

theorem Fixed.gate {s₀ s : Session native} {log : List (Event native)} (h : Fixed s₀ log s)
    (phase : Phase) :
    s.hasCollectedAll phase = true ↔
      (additions phase log).length = s₀.totalExternalCoSigners := by
  unfold MultiSigSession.hasCollectedAll MultiSigSession.totalExternalCoSigners
  rw [h.cached phase, h.signers, beq_iff_eq]

theorem InStep.exact {s₀ s : Session native} {log : List (Event native)}
    (hdistinct : (s₀.signerPublicKeys.map key).Nodup) (hs : Fixed s₀ log s) {phase : Phase}
    (h : InStep key s₀ phase log) :
    s.hasCollectedAll phase = true ↔ Held key s₀ phase log := by
  rw [hs.gate phase]
  rcases h with hlt | ⟨heq, hperm⟩
  · have hco := coSigners_length key s₀ hdistinct
    constructor
    · intro hlen
      omega
    · intro hheld
      have hcover := held_length key hdistinct hheld
      have hcontributors := contributors_length key phase log
      omega
  · exact ⟨fun _ => (held_iff_perm key hdistinct heq).mpr hperm, fun _ => heq⟩

/-- What is in step was in step before. -/
theorem InStep.suffix {s₀ : Session native} {older log : List (Event native)}
    (hsuffix : older <:+ log) {phase : Phase} (h : InStep key s₀ phase log) :
    InStep key s₀ phase older := by
  have hprefix := additions_suffix hsuffix phase
  have hle := hprefix.length_le
  rcases h with hlt | ⟨heq, hperm⟩
  · exact Or.inl (by omega)
  · by_cases hlen : (additions phase older).length = s₀.totalExternalCoSigners
    · have hsame : additions phase older = additions phase log :=
        hprefix.eq_of_length (hlen.trans heq.symm)
      refine Or.inr ⟨hlen, ?_⟩
      rwa [contributors, hsame]
    · exact Or.inl (by omega)

/-- Additions come one at a time, so a run passes every smaller number of them. -/
theorem exists_suffix_with_length (phase : Phase) (log : List (Event native)) (n : ℕ)
    (h : n ≤ (additions phase log).length) :
    ∃ older, older <:+ log ∧ (additions phase older).length = n := by
  induction log with
  | nil =>
    have hzero : (additions phase ([] : List (Event native))).length = 0 := rfl
    exact ⟨[], List.suffix_rfl, by omega⟩
  | cons e log ih =>
    by_cases hle : n ≤ (additions phase log).length
    · obtain ⟨older, hsuffix, hlen⟩ := ih hle
      exact ⟨older, hsuffix.trans (List.suffix_cons _ _), hlen⟩
    · refine ⟨e :: log, List.suffix_rfl, ?_⟩
      have hone : (if e.succeeded then (e.call.addition phase).toList else []).length ≤ 1 := by
        cases e.succeeded <;> cases e.call.addition phase <;> simp
      rw [additions, accepted_cons, List.length_append] at h ⊢
      rw [additions] at hle
      omega

/-- What the native module answers a call with that generates a value or signs. -/
def nativeAnswer (s : Session native) (c : Call) : Except JsError Value :=
  match c.generates with
  | some phase => (nativeGenerate native phase s.session).map fun r => .buffer r.1
  | none => (native.multiSig.sign s.session).map .buffer

theorem generate_outcome (s : Session native) (phase : Phase)
    (hgate : ∀ before, phase.generateCall.gate = some before → s.hasCollectedAll before = true) :
    outcome (machine native) s phase.generateCall = nativeAnswer s phase.generateCall := by
  have hrun : (machine native phase.generateCall).run s =
      (Value.buffer <$> generate native (nativeGenerate native phase)
        fun value s => s.store phase value : Method (Session native) Value).run s := by
    cases phase with
    | nonceCommitment => rfl
    | nonce =>
      have hopen : s.hasCollectedAllNonceCommitments = true := hgate .nonceCommitment rfl
      simp [machine, Phase.generateCall, generateNonce, hopen]
      rfl
    | partialSignature =>
      have hopen : s.hasColletedAllNonces = true := hgate .nonce rfl
      simp [machine, Phase.generateCall, partialSign, hopen]
      rfl
  rw [run_map, generate_run] at hrun
  unfold outcome nativeAnswer
  rw [hrun, generates_eq_some.mpr rfl]
  cases hnative : nativeGenerate native phase s.session <;> simp [Except.map, hnative]

theorem sign_outcome (s : Session native) (hgate : s.hasCollectedAll .partialSignature = true) :
    outcome (machine native) s .sign = nativeAnswer s .sign := by
  have hopen : s.hasColletedAllPartialSignatures = true := hgate
  unfold outcome nativeAnswer
  cases hsign : native.multiSig.sign s.session <;>
    simp [machine, sign, hopen, hsign, Call.generates, Except.map]

/-- A call that waits for a phase met an open gate. -/
theorem Step.gate_open {s t : Session native} {c : Call} {v : Value} {phase : Phase}
    (h : Step native s c v t) (hgate : c.gate = some phase) : s.hasCollectedAll phase = true := by
  cases h with
  | read _ _ hread =>
    have hnone : c.gate = none := by
      cases c <;> first | rfl | cases hread
    rw [hnone] at hgate
    cases hgate
  | generated kind value session hopen _ => exact hopen phase hgate
  | added kind publicKey value session _ _ => cases kind <;> cases hgate
  | signed signature hopen _ =>
    obtain rfl := Option.some.inj hgate
    exact hopen

/-- The call that waits for the values of a phase. -/
def Phase.gatedCall : Phase → Call
  | .nonceCommitment => .generateNonce
  | .nonce => .partialSign
  | .partialSignature => .sign

/-- What the guard of the call throws. -/
def Phase.guardError : Phase → JsError
  | .nonceCommitment =>
    .error "Nonce can be generated only after all co-signer's nonce commitment are added"
  | .nonce =>
    .error "Session can be partially signed only after all co-signer's nonces are added"
  | .partialSignature =>
    .error "Session can be final signed only after all co-signer's partial signatures are added"

theorem Phase.gate_gatedCall (phase : Phase) : phase.gatedCall.gate = some phase := by
  cases phase <;> rfl

/-- The call gets past its guard, and answers what the native module does. -/
structure Passes (s : Session native) (phase : Phase) : Prop where
  gate : s.hasCollectedAll phase = true
  answer : outcome (machine native) s phase.gatedCall = nativeAnswer s phase.gatedCall

/-- The call throws at its guard. -/
structure Stopped (s : Session native) (phase : Phase) : Prop where
  gate : s.hasCollectedAll phase = false
  throws : outcome (machine native) s phase.gatedCall = .error phase.guardError

theorem passes_iff {s : Session native} {phase : Phase} :
    Passes s phase ↔ s.hasCollectedAll phase = true := by
  refine ⟨Passes.gate, fun hopen => ⟨hopen, ?_⟩⟩
  have hbefore : ∀ kind : Phase, kind.generateCall.gate = some phase →
      outcome (machine native) s kind.generateCall = nativeAnswer s kind.generateCall := by
    intro kind hkind
    apply generate_outcome
    intro before hgate
    rw [hkind] at hgate
    rwa [← Option.some.inj hgate]
  cases phase with
  | nonceCommitment => exact hbefore .nonce rfl
  | nonce => exact hbefore .partialSignature rfl
  | partialSignature => exact sign_outcome s hopen

theorem stopped_iff {s : Session native} {phase : Phase} :
    Stopped s phase ↔ s.hasCollectedAll phase = false := by
  refine ⟨Stopped.gate, fun hclosed => ⟨hclosed, ?_⟩⟩
  cases phase with
  | nonceCommitment =>
    have hguard : s.hasCollectedAllNonceCommitments = false := hclosed
    simp [outcome, machine, Phase.gatedCall, Phase.guardError, generateNonce, hguard]
  | nonce =>
    have hguard : s.hasColletedAllNonces = false := hclosed
    simp [outcome, machine, Phase.gatedCall, Phase.guardError, partialSign, hguard]
  | partialSignature =>
    have hguard : s.hasColletedAllPartialSignatures = false := hclosed
    simp [outcome, machine, Phase.gatedCall, Phase.guardError, sign, hguard]

/-- In every state of a run each of the three calls gets past its guard exactly
when the co-signers' values of its phase are held, and throws there else; none
succeeds before, and what gets past the guard once does so from then on. -/
structure GatesExact (s₀ : Session native) (log : List (Event native)) : Prop where
  passes : ∀ older t, older <:+ log → Run (machine native) s₀ older t →
    ∀ phase, Passes t phase ↔ Held key s₀ phase older
  stopped : ∀ older t, older <:+ log → Run (machine native) s₀ older t →
    ∀ phase, Stopped t phase ↔ ¬ Held key s₀ phase older
  reveals : ∀ e older, e :: older <:+ log → ∀ phase : Phase, e.call = phase.gatedCall →
    e.succeeded = true → Held key s₀ phase older
  stays : ∀ older newer t u, older <:+ newer → newer <:+ log → Run (machine native) s₀ older t →
    Run (machine native) s₀ newer u → ∀ phase, Passes t phase → Passes u phase

/-- In a run the gates are exact if and only if in each phase fewer values than
co-signers were accepted, or exactly one for each co-signer. -/
theorem gates_exact_iff {message : String} {keyPair : KeyPair native}
    {signerPublicKeys : List Buffer} {s₀ s : Session native} {log : List (Event native)}
    (hnew : new native message keyPair signerPublicKeys = .ok s₀)
    (hdistinct : (signerPublicKeys.map key).Nodup) (run : Run (machine native) s₀ log s) :
    GatesExact key s₀ log ↔ ∀ phase, InStep key s₀ phase log := by
  have hkeys : (s₀.signerPublicKeys.map key).Nodup := by rwa [(new_eq_ok hnew).2.1]
  constructor
  · intro hexact phase
    have hfixed := Fixed.run hnew run
    rcases Nat.lt_trichotomy (additions phase log).length s₀.totalExternalCoSigners with
      hlt | heq | hgt
    · exact Or.inl hlt
    · have hheld := (hexact.passes log s List.suffix_rfl run phase).mp
        (passes_iff.mpr ((hfixed.gate phase).mpr heq))
      exact Or.inr ⟨heq, (held_iff_perm key hkeys heq).mp hheld⟩
    · -- The gate was open at an earlier state, where the values had to be held already.
      obtain ⟨older, hsuffix, hlen⟩ := exists_suffix_with_length phase log _ (Nat.le_of_lt hgt)
      obtain ⟨t, hrun⟩ := run.suffix hsuffix
      have hopen := ((Fixed.run hnew hrun).gate phase).mpr hlen
      have hheld := (hexact.passes older t hsuffix hrun phase).mp (passes_iff.mpr hopen)
      have hstill := (hexact.passes log s List.suffix_rfl run phase).mpr
        (hheld.mono key hsuffix)
      have heq := (hfixed.gate phase).mp hstill.gate
      omega
  · intro hstep
    have hexact : ∀ older t, older <:+ log → Run (machine native) s₀ older t →
        ∀ phase, t.hasCollectedAll phase = true ↔ Held key s₀ phase older := by
      intro older t hsuffix hrun phase
      exact ((hstep phase).suffix key hsuffix).exact key hkeys (Fixed.run hnew hrun)
    refine ⟨?_, ?_, ?_, ?_⟩
    · intro older t hsuffix hrun phase
      rw [passes_iff]
      exact hexact older t hsuffix hrun phase
    · intro older t hsuffix hrun phase
      rw [stopped_iff, ← hexact older t hsuffix hrun phase, Bool.not_eq_true]
    · intro e older hsuffix phase hcall hok
      obtain ⟨t, hrun⟩ := run.suffix hsuffix
      cases hrun with
      | @call older s c hrun =>
        have holder : older <:+ log := (List.suffix_cons _ _).trans hsuffix
        apply (hexact older s holder hrun phase).mp
        obtain rfl : c = phase.gatedCall := hcall
        obtain ⟨v, hv⟩ := (Entry.succeeded_iff _).mp hok
        exact (step_of_ok hv).gate_open phase.gate_gatedCall
    · intro older newer t u holder hnewer hrun hrun' phase hpasses
      have hheld := (hexact older t (holder.trans hnewer) hrun phase).mp hpasses.gate
      exact passes_iff.mpr ((hexact newer u hnewer hrun' phase).mpr (hheld.mono key holder))

theorem gates_exact_with_one_commitment_each :
    GatesExact id Sample.start
      (execute (machine Sample.module) Sample.start
        [Sample.commit 0 8 1, Sample.commit 2 9 1, .generateNonce]).1 :=
  (gates_exact_iff id Sample.new_start (by decide) (run_execute _ _ _)).mpr fun phase => by
    cases phase <;> decide +kernel

/-- Two commitments of one co-signer open the gate of a session with three
signers: the nonce is revealed without a commitment of the third. -/
theorem nonce_revealed_without_commitment :
    new Sample.module "message" Sample.keyPair [[4, 7], [4, 8], [4, 9]] = .ok Sample.start ∧
    outcome (machine Sample.module)
      (execute (machine Sample.module) Sample.start [Sample.commit 0 8 1, Sample.commit 2 8 2]).2
      .generateNonce = .ok (.buffer [2]) ∧
    ¬ Held id Sample.start .nonceCommitment
      (execute (machine Sample.module) Sample.start
        [Sample.commit 0 8 1, Sample.commit 2 8 2]).1 ∧
    ¬ GatesExact id Sample.start
      (execute (machine Sample.module) Sample.start
        [Sample.commit 0 8 1, Sample.commit 2 8 2]).1 := by
  have hheld : ¬ Held id Sample.start .nonceCommitment
      (execute (machine Sample.module) Sample.start
        [Sample.commit 0 8 1, Sample.commit 2 8 2]).1 := by decide +kernel
  refine ⟨rfl, by decide +kernel, hheld, ?_⟩
  intro hexact
  apply hheld
  apply (hexact.passes _ _ List.suffix_rfl (run_execute _ _ _) .nonceCommitment).mp
  exact passes_iff.mpr (by decide +kernel)

end ThalerNodelib.MultiSig
