import ThalerNodelib.MultiSigSession

/-!
The session against the native session it threads: a call that throws changes
nothing, and after any run the session is the fold of the native transitions of
the calls that succeeded, whatever the native functions are.
-/
namespace ThalerNodelib.MultiSig

open Js Native KeyPairs Runs

variable {native : NativeModule}

abbrev Event (native : NativeModule) := Entry JsError (Session native) Call Value

/-- The value of a phase that the session generated itself. -/
def MultiSigSession.generated (s : Session native) : Phase → Option Buffer
  | .nonceCommitment => s.nonceCommitment
  | .nonce => s.nonce
  | .partialSignature => s.partialSignature

def MultiSigSession.store (s : Session native) (phase : Phase) (value : Buffer) :
    Session native :=
  match phase with
  | .nonceCommitment => { s with nonceCommitment := some value }
  | .nonce => { s with nonce := some value }
  | .partialSignature => { s with partialSignature := some value }

def MultiSigSession.replace (s : Session native) (session : Buffer) : Session native :=
  { s with session := session }

/-- The call that generates the value of a phase. -/
def Phase.generateCall : Phase → Call
  | .nonceCommitment => .generateNonceCommitment
  | .nonce => .generateNonce
  | .partialSignature => .partialSign

/-- The phase whose value a call generates. -/
def Call.generates : Call → Option Phase
  | .generateNonceCommitment => some .nonceCommitment
  | .generateNonce => some .nonce
  | .partialSign => some .partialSignature
  | _ => none

theorem generates_eq_some {c : Call} {phase : Phase} :
    c.generates = some phase ↔ c = phase.generateCall := by
  cases c <;> cases phase <;> simp [Call.generates, Phase.generateCall]

/-- The call that adds a value of a phase for another signer. -/
def Phase.addCall : Phase → Argument → Argument → Call
  | .nonceCommitment => .addNonceCommitment
  | .nonce => .addNonce
  | .partialSignature => .addPartialSignature

/-- The phase whose values a call asks for before it goes on. -/
def Call.gate : Call → Option Phase
  | .generateNonce => some .nonceCommitment
  | .partialSign => some .nonce
  | .sign => some .partialSignature
  | _ => none

/-- The calls that only read the session. -/
def Call.isRead : Call → Bool
  | .getRawSession => true
  | .getMessage => true
  | .verify _ => true
  | _ => false

variable (native) in
def nativeGenerate (phase : Phase) (session : Buffer) : Except JsError (Buffer × Buffer) :=
  match phase with
  | .nonceCommitment => native.multiSig.generateNonceCommitment session
  | .nonce => native.multiSig.generateNonce session
  | .partialSignature => native.multiSig.partialSign session

variable (native) in
/-- The native addition; the public key of a nonce commitment may be no buffer. -/
def nativeAdd (phase : Phase) (publicKey : Argument) (value : BufferObject) (session : Buffer) :
    Except JsError Buffer :=
  match phase, publicKey with
  | .nonceCommitment, publicKey =>
    native.multiSig.addNonceCommitment session (publicKey.map BufferObject.bytes) value.bytes
  | .nonce, some publicKey => native.multiSig.addNonce session publicKey.bytes value.bytes
  | .partialSignature, some publicKey =>
    native.multiSig.addPartialSignature session publicKey.bytes value.bytes
  | _, none => .error (.argumentError "coSignerPublicKey" "")

/-- The ways a call succeeds. -/
inductive Step (native : NativeModule) (s : Session native) :
    Call → Value → Session native → Prop
  | read (c : Call) (v : Value) : c.isRead = true → Step native s c v s
  | generated (phase : Phase) (value session : Buffer) :
      (∀ before, phase.generateCall.gate = some before → s.hasCollectedAll before = true) →
      nativeGenerate native phase s.session = .ok (value, session) →
      Step native s phase.generateCall (.buffer value) ((s.store phase value).replace session)
  | added (phase : Phase) (publicKey : Argument) (value : BufferObject) (session : Buffer) :
      s.hasThisSigner phase value = false →
      nativeAdd native phase publicKey value s.session = .ok session →
      Step native s (phase.addCall publicKey (some value)) (.buffer session)
        ((s.replace session).push phase value)
  | signed (signature : Buffer) :
      s.hasCollectedAll .partialSignature = true → native.multiSig.sign s.session = .ok signature →
      Step native s .sign (.buffer signature) { s with signature := some signature }

theorem generate_run (s : Session native) (transition : Buffer → Except JsError (Buffer × Buffer))
    (store : Buffer → Session native → Session native) :
    (generate native transition store).run s = match transition s.session with
      | .ok (value, session) => .ok value ((store value s).replace session)
      | .error e => .error e s := by
  unfold generate
  cases h : transition s.session with
  | error e => simp [h]
  | ok p =>
    simp [h]
    rfl

theorem push_session (s : Session native) (phase : Phase) (value : BufferObject) :
    (s.push phase value).session = s.session := by
  cases phase <;> rfl

theorem add_run (s : Session native) (phase : Phase) (duplicate : String)
    (transition : Buffer → Except JsError Buffer) (value : BufferObject) :
    (add native phase duplicate transition value).run s =
      if s.hasThisSigner phase value then .error (.error duplicate) s
      else match transition s.session with
        | .ok session => .ok session ((s.replace session).push phase value)
        | .error e => .error e s := by
  unfold add
  cases hhas : s.hasThisSigner phase value with
  | true => simp [hhas]
  | false =>
    cases h : transition s.session with
    | error e => simp [hhas, h]
    | ok session =>
      simp [hhas, h, push_session]
      rfl

/-- What a call did: it threw and changed nothing, or it succeeded in a listed way. -/
def Settled (native : NativeModule) (s : Session native) (c : Call)
    (r : EStateM.Result JsError (Session native) Value) : Prop :=
  (∃ e, r = .error e s) ∨ ∃ v t, r = .ok v t ∧ Step native s c v t

theorem settled_generate {s : Session native} (phase : Phase)
    (hgate : ∀ before, phase.generateCall.gate = some before → s.hasCollectedAll before = true)
    {m : Method (Session native) Buffer}
    (hm : m.run s = (generate native (nativeGenerate native phase)
      fun value s => s.store phase value).run s) :
    Settled native s phase.generateCall
      ((Value.buffer <$> m : Method (Session native) Value).run s) := by
  rw [run_map, hm, generate_run]
  cases h : nativeGenerate native phase s.session with
  | error e => exact Or.inl ⟨e, rfl⟩
  | ok p => exact Or.inr ⟨_, _, rfl, .generated phase p.1 p.2 hgate h⟩

theorem settled_add {s : Session native} (phase : Phase) (publicKey : Argument)
    (value : BufferObject) (duplicate : String) {m : Method (Session native) Buffer}
    (hm : m.run s =
      (add native phase duplicate (nativeAdd native phase publicKey value) value).run s) :
    Settled native s (phase.addCall publicKey (some value))
      ((Value.buffer <$> m : Method (Session native) Value).run s) := by
  rw [run_map, hm, add_run]
  cases hhas : s.hasThisSigner phase value with
  | true => exact Or.inl ⟨_, rfl⟩
  | false =>
    cases h : nativeAdd native phase publicKey value s.session with
    | error e => exact Or.inl ⟨e, rfl⟩
    | ok session => exact Or.inr ⟨_, _, rfl, .added phase publicKey value session hhas h⟩

theorem settled_throw {s : Session native} {c : Call} {m : Method (Session native) Buffer}
    {e : JsError} (hm : m.run s = .error e s) :
    Settled native s c ((Value.buffer <$> m : Method (Session native) Value).run s) :=
  Or.inl ⟨e, by rw [run_map, hm]⟩

variable (native) in
theorem step (s : Session native) (c : Call) : Settled native s c ((machine native c).run s) := by
  cases c with
  | getRawSession =>
    cases h : s.getRawSession with
    | error e => exact Or.inl ⟨e, by simp [machine, h]⟩
    | ok session => exact Or.inr ⟨_, s, by simp [machine, h]; rfl, .read _ _ rfl⟩
  | getMessage =>
    cases h : s.getMessage with
    | error e => exact Or.inl ⟨e, by simp [machine, h]⟩
    | ok message => exact Or.inr ⟨_, s, by simp [machine, h]; rfl, .read _ _ rfl⟩
  | verify signature =>
    cases h : s.verify signature with
    | error e => exact Or.inl ⟨e, by simp [machine, h]⟩
    | ok accepted => exact Or.inr ⟨_, s, by simp [machine, h]; rfl, .read _ _ rfl⟩
  | generateNonceCommitment =>
    simp only [machine, bind_pure_comp]
    exact settled_generate .nonceCommitment (fun before hgate => by cases hgate) rfl
  | generateNonce =>
    simp only [machine, bind_pure_comp]
    cases hgate : s.hasCollectedAllNonceCommitments with
    | false => exact settled_throw (by simp [generateNonce, hgate]; rfl)
    | true =>
      refine settled_generate .nonce ?_ (by simp [generateNonce, hgate]; rfl)
      intro before hsome
      cases hsome
      exact hgate
  | partialSign =>
    simp only [machine, bind_pure_comp]
    cases hgate : s.hasColletedAllNonces with
    | false => exact settled_throw (by simp [partialSign, hgate]; rfl)
    | true =>
      refine settled_generate .partialSignature ?_ (by simp [partialSign, hgate]; rfl)
      intro before hsome
      cases hsome
      exact hgate
  | addNonceCommitment publicKey value =>
    simp only [machine, bind_pure_comp]
    cases value with
    | none => exact settled_throw (by simp [addNonceCommitment, owBuffer]; rfl)
    | some value =>
      exact settled_add .nonceCommitment publicKey value _
        (by simp [addNonceCommitment, owBuffer]; rfl)
  | addNonce publicKey value =>
    simp only [machine, bind_pure_comp]
    cases publicKey with
    | none => exact settled_throw (by simp [addNonce, owBuffer]; rfl)
    | some publicKey =>
      cases value with
      | none => exact settled_throw (by simp [addNonce, owBuffer]; rfl)
      | some value =>
        exact settled_add .nonce (some publicKey) value _ (by simp [addNonce, owBuffer]; rfl)
  | addPartialSignature publicKey value =>
    simp only [machine, bind_pure_comp]
    cases publicKey with
    | none => exact settled_throw (by simp [addPartialSignature, owBuffer]; rfl)
    | some publicKey =>
      cases value with
      | none => exact settled_throw (by simp [addPartialSignature, owBuffer]; rfl)
      | some value =>
        exact settled_add .partialSignature (some publicKey) value _
          (by simp [addPartialSignature, owBuffer]; rfl)
  | sign =>
    cases hgate : s.hasColletedAllPartialSignatures with
    | false => exact Or.inl ⟨_, by simp [machine, sign, hgate]; rfl⟩
    | true =>
      cases h : native.multiSig.sign s.session with
      | error e => exact Or.inl ⟨e, by simp [machine, sign, hgate, h]⟩
      | ok signature =>
        exact Or.inr ⟨_, _, by simp [machine, sign, hgate, h], .signed signature hgate h⟩

/-- Whatever makes a call throw, it leaves the session as it was. -/
theorem throw_keeps {s : Session native} {c : Call} {e : JsError}
    (h : outcome (machine native) s c = .error e) : next (machine native) s c = s := by
  rcases step native s c with ⟨e', hrun⟩ | ⟨v, t, hrun, -⟩
  · exact next_error hrun
  · rw [outcome_ok hrun] at h
    cases h

theorem step_of_ok {s : Session native} {c : Call} {v : Value}
    (h : outcome (machine native) s c = .ok v) : Step native s c v (next (machine native) s c) := by
  rcases step native s c with ⟨e, hrun⟩ | ⟨w, t, hrun, hstep⟩
  · rw [outcome_error hrun] at h
    cases h
  · rw [outcome_ok hrun] at h
    cases h
    rwa [next_ok hrun]

variable (native) in
/-- The transition of the native session that a call makes when it succeeds. -/
def transition (session : Buffer) (c : Call) : Except JsError Buffer :=
  match c with
  | .generateNonceCommitment =>
    (native.multiSig.generateNonceCommitment session).map Prod.snd
  | .generateNonce => (native.multiSig.generateNonce session).map Prod.snd
  | .partialSign => (native.multiSig.partialSign session).map Prod.snd
  | .addNonceCommitment publicKey (some value) =>
    nativeAdd native .nonceCommitment publicKey value session
  | .addNonce publicKey (some value) => nativeAdd native .nonce publicKey value session
  | .addPartialSignature publicKey (some value) =>
    nativeAdd native .partialSignature publicKey value session
  | _ => .ok session

/-- The value that a call adds to the cache of a phase, if it succeeds. -/
def Call.added (phase : Phase) (c : Call) : Option BufferObject :=
  match phase, c with
  | .nonceCommitment, .addNonceCommitment _ value => value
  | .nonce, .addNonce _ value => value
  | .partialSignature, .addPartialSignature _ value => value
  | _, _ => none

/-- What the newest successful generation of a phase got from the native module. -/
def lastGenerated (phase : Phase) (log : List (Event native)) : Option Buffer :=
  log.findSome? fun e =>
    if e.succeeded = true ∧ e.call = phase.generateCall then
      (nativeGenerate native phase e.before.session).toOption.map Prod.fst
    else none

theorem transition_generateCall (phase : Phase) (session : Buffer) :
    transition native session phase.generateCall =
      (nativeGenerate native phase session).map Prod.snd := by
  cases phase <;> rfl

theorem transition_addCall (phase : Phase) (publicKey : Argument) (value : BufferObject)
    (session : Buffer) :
    transition native session (phase.addCall publicKey (some value)) =
      nativeAdd native phase publicKey value session := by
  cases phase <;> rfl

theorem transition_of_isRead {c : Call} (h : c.isRead = true) (session : Buffer) :
    transition native session c = .ok session := by
  cases c <;> first | rfl | cases h

/-- A successful call advances the native session by its transition. -/
theorem Step.session {s t : Session native} {c : Call} {v : Value} (h : Step native s c v t) :
    transition native s.session c = .ok t.session := by
  cases h with
  | read _ _ hread => exact transition_of_isRead hread s.session
  | generated phase value session _ hnative =>
    rw [transition_generateCall, hnative]
    rfl
  | added phase publicKey value session _ hnative =>
    rw [transition_addCall, hnative, push_session]
    rfl
  | signed signature _ _ => rfl

theorem Step.cached {s t : Session native} {c : Call} {v : Value} (h : Step native s c v t)
    (phase : Phase) : t.cached phase = s.cached phase ++ (c.added phase).toList := by
  cases h with
  | read _ _ hread =>
    cases c <;> cases phase <;> first | exact (List.append_nil _).symm | cases hread
  | generated kind value session _ _ =>
    cases kind <;> cases phase <;> exact (List.append_nil _).symm
  | added kind publicKey value session _ _ =>
    cases kind <;> cases phase <;> first | rfl | exact (List.append_nil _).symm
  | signed signature _ _ => cases phase <;> exact (List.append_nil _).symm

theorem Step.generated_eq {s t : Session native} {c : Call} {v : Value}
    (h : Step native s c v t) (phase : Phase) :
    t.generated phase = if c = phase.generateCall then
      (nativeGenerate native phase s.session).toOption.map Prod.fst else s.generated phase := by
  cases h with
  | read _ _ hread =>
    cases c <;> cases phase <;> first | rfl | cases hread
  | generated kind value session _ hnative =>
    cases kind <;> cases phase <;> first | rfl | (rw [if_pos rfl, hnative]; rfl)
  | added kind publicKey value session _ _ => cases kind <;> cases phase <;> rfl
  | signed signature _ _ => cases phase <;> rfl

/-- The session of a run and its caches, in terms of the calls that succeeded. -/
structure Refines (s₀ : Session native) (log : List (Event native)) (s : Session native) :
    Prop where
  session : (accepted some log).foldlM (transition native) s₀.session = .ok s.session
  generated : ∀ phase, s.generated phase = lastGenerated phase log
  cached : ∀ phase, s.cached phase = accepted (Call.added phase) log

theorem accepted_throw {α : Type} {part : Call → Option α} {e : Event native}
    (h : e.succeeded = false) (log : List (Event native)) :
    accepted part (e :: log) = accepted part log :=
  accepted_none (fun hok => by rw [h] at hok; cases hok) log

theorem Refines.call {s₀ s : Session native} {log : List (Event native)}
    (hs : Refines s₀ log s) (c : Call) :
    Refines s₀ (entry (machine native) s c :: log) (next (machine native) s c) := by
  cases hout : outcome (machine native) s c with
  | error e =>
    have hfailed : (entry (machine native) s c).succeeded = false := by
      simp [entry, Entry.succeeded, hout]
    rw [throw_keeps hout]
    refine ⟨?_, ?_, ?_⟩
    · rw [accepted_throw hfailed]
      exact hs.session
    · intro phase
      rw [hs.generated phase, lastGenerated, lastGenerated, List.findSome?_cons, hfailed]
      simp
    · intro phase
      rw [accepted_throw hfailed]
      exact hs.cached phase
  | ok v =>
    have hok : (entry (machine native) s c).succeeded = true := by
      simp [entry, Entry.succeeded, hout]
    have hstep := step_of_ok hout
    refine ⟨?_, ?_, ?_⟩
    · rw [accepted_some hok (by rfl), List.foldlM_append, hs.session]
      change (transition native s.session c >>= fun session => .ok session) = _
      rw [hstep.session]
      rfl
    · intro phase
      rw [hstep.generated_eq phase, lastGenerated, List.findSome?_cons, hok]
      by_cases hc : c = phase.generateCall
      · have hsession := hstep.session
        rw [hc, transition_generateCall] at hsession
        cases hnative : nativeGenerate native phase s.session with
        | error e =>
          rw [hnative] at hsession
          cases hsession
        | ok p => simp [entry, hc, hnative, Except.toOption]
      · have hcall : (entry (machine native) s c).call ≠ phase.generateCall := hc
        simp only [hcall, hc, and_false, if_false]
        exact hs.generated phase
    · intro phase
      rw [hstep.cached phase, accepted_cons, hok, hs.cached phase]
      rfl

theorem new_eq_ok {message : String} {keyPair : KeyPair native} {signerPublicKeys : List Buffer}
    {s₀ : Session native} (h : new native message keyPair signerPublicKeys = .ok s₀) :
    native.multiSig.newSession message signerPublicKeys keyPair.publicKey keyPair.privateKey =
        .ok s₀.session ∧
      s₀.signerPublicKeys = signerPublicKeys ∧ s₀.keyPair = keyPair ∧
      ∀ phase, s₀.cached phase = [] ∧ s₀.generated phase = none := by
  unfold new at h
  split at h
  · cases h
  · split at h
    · split at h
      · cases h
      · rename_i session hnative
        cases h
        exact ⟨hnative, rfl, rfl, fun phase => by cases phase <;> exact ⟨rfl, rfl⟩⟩
    · cases h

theorem Refines.start {message : String} {keyPair : KeyPair native}
    {signerPublicKeys : List Buffer} {s₀ : Session native}
    (h : new native message keyPair signerPublicKeys = .ok s₀) : Refines s₀ [] s₀ := by
  obtain ⟨-, -, -, hempty⟩ := new_eq_ok h
  exact ⟨rfl, fun phase => (hempty phase).2, fun phase => (hempty phase).1⟩

theorem Refines.run {s₀ s : Session native} {log : List (Event native)}
    (hs₀ : Refines s₀ [] s₀) (run : Run (machine native) s₀ log s) : Refines s₀ log s :=
  run.invariant (Refines s₀) hs₀ fun _ _ c _ hs => hs.call c

/-- Whatever the native functions do: after any run the session is the fold of
the successful native transitions from `newSession`, the generated values are
the newest and the caches list what was added; a call that throws changes nothing. -/
theorem refines_native {message : String} {keyPair : KeyPair native}
    {signerPublicKeys : List Buffer} {s₀ s : Session native} {log : List (Event native)}
    (hnew : new native message keyPair signerPublicKeys = .ok s₀)
    (run : Run (machine native) s₀ log s) :
    native.multiSig.newSession message signerPublicKeys keyPair.publicKey keyPair.privateKey =
        .ok s₀.session ∧
      Refines s₀ log s ∧
      ∀ c e, outcome (machine native) s c = .error e → next (machine native) s c = s :=
  ⟨(new_eq_ok hnew).1, (Refines.start hnew).run run, fun _ _ h => throw_keeps h⟩

/-! A native module that keeps a record of three bytes for each two-byte signer
key, and the session of the first of three signers. -/
namespace Sample

/-- Sets one of the three values of a signer; fails for a key of no signer. -/
def record (slot : ℕ) (publicKey value : Buffer) : Buffer → Option Buffer
  | a :: b :: c :: n :: p :: rest =>
    if [a, b] = publicKey then some ([a, b] ++ [c, n, p].set slot (value.headD 0) ++ rest)
    else (record slot publicKey value rest).map ([a, b, c, n, p] ++ ·)
  | _ => none

def recordFor (slot : ℕ) (session : Buffer) (publicKey : Option Buffer) (value : Buffer) :
    Except JsError Buffer :=
  match publicKey.bind fun publicKey => record slot publicKey value session with
  | some session => .ok session
  | none => .error (.error "Unknown signer")

def module : NativeModule := { Native.Sample.module with
  multiSig := { Native.Sample.module.multiSig with
    newSession := fun _ signerPublicKeys _ _ => .ok (signerPublicKeys.flatMap (· ++ [0, 0, 0]))
    addNonceCommitment := fun session publicKey value => recordFor 0 session publicKey value
    addNonce := fun session publicKey value => recordFor 1 session (some publicKey) value
    addPartialSignature := fun session publicKey value =>
      recordFor 2 session (some publicKey) value } }

def keyPair : KeyPair module := ⟨some [4, 7], some [2, 7], some [7], .privateKey rfl rfl⟩

def start : Session module where
  message := "message"
  message_nonempty := by decide
  keyPair := keyPair
  signerPublicKeys := [[4, 7], [4, 8], [4, 9]]
  two_signers := by decide
  session := [4, 7, 0, 0, 0, 4, 8, 0, 0, 0, 4, 9, 0, 0, 0]
  nonceCommitment := none
  coSignerNonceCommitments := []
  nonce := none
  coSignerNonces := []
  partialSignature := none
  coSignerSignatures := []
  signature := none

def commit (ref : ℕ) (signer value : UInt8) : Call :=
  .addNonceCommitment (some ⟨ref, [4, signer]⟩) (some ⟨ref + 1, [value]⟩)

end Sample

theorem Sample.new_start : new Sample.module "message" Sample.keyPair [[4, 7], [4, 8], [4, 9]] =
    .ok Sample.start := rfl

theorem refines_native_after_commitment :
    Sample.module.multiSig.newSession "message" [[4, 7], [4, 8], [4, 9]]
        Sample.keyPair.publicKey Sample.keyPair.privateKey = .ok Sample.start.session ∧
      Refines Sample.start
        (execute (machine Sample.module) Sample.start
          [Sample.commit 0 8 1, .generateNonce, .generateNonceCommitment]).1
        (execute (machine Sample.module) Sample.start
          [Sample.commit 0 8 1, .generateNonce, .generateNonceCommitment]).2 ∧
      ∀ c e,
        outcome (machine Sample.module)
          (execute (machine Sample.module) Sample.start
            [Sample.commit 0 8 1, .generateNonce, .generateNonceCommitment]).2 c = .error e →
        next (machine Sample.module)
          (execute (machine Sample.module) Sample.start
            [Sample.commit 0 8 1, .generateNonce, .generateNonceCommitment]).2 c =
          (execute (machine Sample.module) Sample.start
            [Sample.commit 0 8 1, .generateNonce, .generateNonceCommitment]).2 :=
  refines_native Sample.new_start (run_execute _ _ _)

end ThalerNodelib.MultiSig
