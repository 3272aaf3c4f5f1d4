import ThalerNodelib.MultiSigHistory

/-!
Sessions whose buffers are compared by their contents. What a call does depends
on the identity of a buffer only in the search for duplicates. So runs that
differ in identities agree as long as the search finds what has the same bytes;
a copy of a value that was added is taken for a new one.
-/
namespace ThalerNodelib.MultiSig

open Js Native KeyPairs Runs

variable {native : NativeModule}

/-- The same bytes in an object of no identity of its own. -/
def BufferObject.forget (object : BufferObject) : BufferObject := { object with ref := 0 }

/-- The session with the identities of the cached values forgotten. -/
def MultiSigSession.forget (s : Session native) : Session native :=
  { s with
    coSignerNonceCommitments := s.coSignerNonceCommitments.map BufferObject.forget
    coSignerNonces := s.coSignerNonces.map BufferObject.forget
    coSignerSignatures := s.coSignerSignatures.map BufferObject.forget }

def SameArgument (a b : Argument) : Prop :=
  a.map BufferObject.bytes = b.map BufferObject.bytes

/-- The same call, with other objects of the same bytes as arguments. -/
inductive SameBytes : Call → Call → Prop
  | read {c : Call} :
      (∀ phase publicKey value, c ≠ Phase.addCall phase publicKey value) → SameBytes c c
  | added (phase : Phase) {publicKey publicKey' value value' : Argument} :
      SameArgument publicKey publicKey' → SameArgument value value' →
      SameBytes (phase.addCall publicKey value) (phase.addCall publicKey' value')

/-- A value of the phase with these bytes was added. -/
def MultiSigSession.hasBytes (s : Session native) (phase : Phase) (bytes : Buffer) : Prop :=
  ∃ added ∈ s.cached phase, added.bytes = bytes

/-- What an addition throws for a value that was added before. -/
def Phase.duplicate : Phase → JsError
  | .nonceCommitment => .error "This co-signer's nonce commitment has already been added"
  | .nonce => .error "This co-signer's nonce has already been added"
  | .partialSignature => .error "This co-signer's signature has already been added"

/-- The checks of the arguments of an addition. -/
def Phase.owArguments (phase : Phase) (publicKey value : Argument) :
    Except JsError BufferObject :=
  match phase with
  | .nonceCommitment => owBuffer value "coSignerNonceCommitment"
  | .nonce => do
    let _ ← owBuffer publicKey "coSignerPublicKey"
    owBuffer value "coSignerNonce"
  | .partialSignature => do
    let _ ← owBuffer publicKey "coSignerPublicKey"
    owBuffer value "coSignerSignature"

/-- The value of an addition of the phase whose arguments pass the checks. -/
def Call.checked (phase : Phase) (c : Call) : Option BufferObject :=
  match phase, c with
  | .nonceCommitment, .addNonceCommitment publicKey value =>
    (Phase.nonceCommitment.owArguments publicKey value).toOption
  | .nonce, .addNonce publicKey value => (Phase.nonce.owArguments publicKey value).toOption
  | .partialSignature, .addPartialSignature publicKey value =>
    (Phase.partialSignature.owArguments publicKey value).toOption
  | _, _ => none

theorem checked_addCall {phase : Phase} {publicKey value : Argument} {object : BufferObject}
    (h : phase.owArguments publicKey value = .ok object) :
    (phase.addCall publicKey value).checked phase = some object := by
  cases phase <;> exact congrArg Except.toOption h

/-- The value that a call searches for is the object of an added value exactly when
it has the bytes of one. -/
def ByContent (s : Session native) (c : Call) : Prop :=
  ∀ phase value, c.checked phase = some value →
    (s.hasThisSigner phase value = true ↔ s.hasBytes phase value.bytes)

theorem map_add_run (s : Session native) (phase : Phase) (duplicate : String)
    (transition : Buffer → Except JsError Buffer) (value : BufferObject) :
    (Value.buffer <$> add native phase duplicate transition value :
        Method (Session native) Value).run s =
      if s.hasThisSigner phase value then .error (.error duplicate) s
      else match transition s.session with
        | .ok session => .ok (.buffer session) ((s.replace session).push phase value)
        | .error e => .error e s := by
  rw [run_map, add_run]
  cases s.hasThisSigner phase value with
  | true => rfl
  | false => cases transition s.session <;> rfl

/-- An addition: its checks, the search for a duplicate and the native call. -/
theorem machine_addCall (phase : Phase) (publicKey value : Argument) (s : Session native) :
    (machine native (phase.addCall publicKey value)).run s =
      match phase.owArguments publicKey value with
      | .error e => .error e s
      | .ok value =>
        if s.hasThisSigner phase value then .error phase.duplicate s
        else match nativeAdd native phase publicKey value s.session with
          | .ok session => .ok (.buffer session) ((s.replace session).push phase value)
          | .error e => .error e s := by
  cases phase with
  | nonceCommitment =>
    cases value with
    | none => simp [machine, Phase.addCall, addNonceCommitment, Phase.owArguments, owBuffer]
    | some value =>
      simp only [machine, Phase.addCall, bind_pure_comp]
      exact map_add_run s .nonceCommitment _
        (nativeAdd native .nonceCommitment publicKey value) value
  | nonce =>
    cases publicKey with
    | none => simp [machine, Phase.addCall, addNonce, Phase.owArguments, owBuffer]; rfl
    | some publicKey =>
      cases value with
      | none => simp [machine, Phase.addCall, addNonce, Phase.owArguments, owBuffer]; rfl
      | some value =>
        simp only [machine, Phase.addCall, bind_pure_comp]
        exact map_add_run s .nonce _ (nativeAdd native .nonce (some publicKey) value) value
  | partialSignature =>
    cases publicKey with
    | none => simp [machine, Phase.addCall, addPartialSignature, Phase.owArguments, owBuffer]; rfl
    | some publicKey =>
      cases value with
      | none => simp [machine, Phase.addCall, addPartialSignature, Phase.owArguments, owBuffer]; rfl
      | some value =>
        simp only [machine, Phase.addCall, bind_pure_comp]
        exact map_add_run s .partialSignature _
          (nativeAdd native .partialSignature (some publicKey) value) value

/-! Forgetting identities. -/

theorem cached_forget (s : Session native) (phase : Phase) :
    s.forget.cached phase = (s.cached phase).map BufferObject.forget := by
  cases phase <;> rfl

theorem hasCollectedAll_forget (s : Session native) (phase : Phase) :
    s.forget.hasCollectedAll phase = s.hasCollectedAll phase := by
  rw [MultiSigSession.hasCollectedAll, cached_forget, List.length_map]
  rfl

theorem push_forget (s : Session native) (phase : Phase) (value : BufferObject) :
    (s.push phase value).forget = s.forget.push phase value.forget := by
  cases phase <;> simp [MultiSigSession.push, MultiSigSession.forget]

theorem hasBytes_forget (s : Session native) (phase : Phase) (bytes : Buffer) :
    s.forget.hasBytes phase bytes ↔ s.hasBytes phase bytes := by
  simp [MultiSigSession.hasBytes, cached_forget, BufferObject.forget]

/-- What a call runs to, with the identities in the state forgotten. -/
def forgotten : EStateM.Result JsError (Session native) Value →
    EStateM.Result JsError (Session native) Value
  | .ok v s => .ok v s.forget
  | .error e s => .error e s.forget

theorem generate_forget (s : Session native)
    (transition : Buffer → Except JsError (Buffer × Buffer))
    (store : Buffer → Session native → Session native)
    (hstore : ∀ value s, (store value s).forget = store value s.forget) :
    (Value.buffer <$> generate native transition store : Method (Session native) Value).run
        s.forget =
      forgotten ((Value.buffer <$> generate native transition store :
        Method (Session native) Value).run s) := by
  rw [run_map, run_map, generate_run, generate_run]
  have hsession : s.forget.session = s.session := rfl
  rw [hsession]
  cases transition s.session with
  | error e => rfl
  | ok p =>
    have hreplace : ∀ t : Session native, (t.replace p.2).forget = t.forget.replace p.2 :=
      fun _ => rfl
    simp only [forgotten, hreplace, hstore]

/-- Likewise for a generation behind a gate, which counts the values of a phase. -/
theorem gated_forget {s : Session native} (phase : Phase) {m other : Method (Session native) Buffer}
    (e : JsError)
    (hopen : ∀ t : Session native, t.hasCollectedAll phase = true → m.run t = other.run t)
    (hshut : ∀ t : Session native, t.hasCollectedAll phase = false → m.run t = .error e t)
    (hother : (Value.buffer <$> other : Method (Session native) Value).run s.forget =
      forgotten ((Value.buffer <$> other : Method (Session native) Value).run s)) :
    (Value.buffer <$> m : Method (Session native) Value).run s.forget =
      forgotten ((Value.buffer <$> m : Method (Session native) Value).run s) := by
  have hgate := hasCollectedAll_forget s phase
  rw [run_map, run_map] at hother ⊢
  cases hcollected : s.hasCollectedAll phase with
  | true =>
    rw [hopen s hcollected, hopen s.forget (hgate.trans hcollected)]
    exact hother
  | false =>
    rw [hshut s hcollected, hshut s.forget (hgate.trans hcollected)]
    rfl

theorem sign_forget (s : Session native) :
    (machine native .sign).run s.forget = forgotten ((machine native .sign).run s) := by
  have hgate : s.forget.hasColletedAllPartialSignatures = s.hasColletedAllPartialSignatures :=
    hasCollectedAll_forget s .partialSignature
  have hsession : s.forget.session = s.session := rfl
  cases hcollected : s.hasColletedAllPartialSignatures with
  | false =>
    simp [machine, sign, hgate, hcollected]
    rfl
  | true =>
    cases hnative : native.multiSig.sign s.session with
    | error e => simp [machine, sign, hgate, hcollected, hsession, hnative, forgotten]
    | ok signature =>
      simp [machine, sign, hgate, hcollected, hsession, hnative, forgotten]
      rfl

/-- The other calls do not look at identities. -/
theorem machine_forget {c : Call}
    (hread : ∀ phase publicKey value, c ≠ Phase.addCall phase publicKey value)
    (s : Session native) :
    (machine native c).run s.forget = forgotten ((machine native c).run s) := by
  cases c with
  | addNonceCommitment publicKey value => exact absurd rfl (hread .nonceCommitment publicKey value)
  | addNonce publicKey value => exact absurd rfl (hread .nonce publicKey value)
  | addPartialSignature publicKey value =>
    exact absurd rfl (hread .partialSignature publicKey value)
  | getRawSession =>
    have h : s.forget.getRawSession = s.getRawSession := rfl
    cases hraw : s.getRawSession <;> simp [machine, h, hraw, forgotten]
  | getMessage =>
    have h : s.forget.getMessage = s.getMessage := rfl
    cases hmessage : s.getMessage <;> simp [machine, h, hmessage, forgotten]
  | verify signature =>
    have h : s.forget.verify signature = s.verify signature := rfl
    cases hverify : s.verify signature <;> simp [machine, h, hverify, forgotten]
  | generateNonceCommitment =>
    simp only [machine, bind_pure_comp]
    exact generate_forget s _ _ fun _ _ => rfl
  | generateNonce =>
    simp only [machine, bind_pure_comp]
    refine gated_forget .nonceCommitment
      (.error "Nonce can be generated only after all co-signer's nonce commitment are added")
      ?_ ?_ (generate_forget s native.multiSig.generateNonce
      (fun value s => { s with nonce := some value }) fun _ _ => rfl)
    · intro t ht
      have hgate : t.hasCollectedAllNonceCommitments = true := ht
      simp [generateNonce, hgate]
    · intro t ht
      have hgate : t.hasCollectedAllNonceCommitments = false := ht
      simp [generateNonce, hgate]
  | partialSign =>
    simp only [machine, bind_pure_comp]
    refine gated_forget .nonce
      (.error "Session can be partially signed only after all co-signer's nonces are added")
      ?_ ?_ (generate_forget s native.multiSig.partialSign
      (fun value s => { s with partialSignature := some value }) fun _ _ => rfl)
    · intro t ht
      have hgate : t.hasColletedAllNonces = true := ht
      simp [partialSign, hgate]
    · intro t ht
      have hgate : t.hasColletedAllNonces = false := ht
      simp [partialSign, hgate]
  | sign => exact sign_forget s

/-! Calls of the same bytes. -/

theorem BufferObject.forget_eq {a b : BufferObject} (h : a.bytes = b.bytes) :
    a.forget = b.forget := by
  rw [BufferObject.forget, BufferObject.forget, h]

theorem SameArgument.some_left {object : BufferObject} {b : Argument}
    (h : SameArgument (some object) b) : ∃ other, b = some other ∧ object.bytes = other.bytes := by
  cases b with
  | none => cases h
  | some other => exact ⟨other, rfl, Option.some.inj h⟩

theorem nativeAdd_same {publicKey publicKey' : Argument} (hkey : SameArgument publicKey publicKey')
    {value value' : BufferObject} (hvalue : value.bytes = value'.bytes) (phase : Phase)
    (session : Buffer) :
    nativeAdd native phase publicKey value session =
      nativeAdd native phase publicKey' value' session := by
  cases publicKey with
  | none =>
    cases publicKey' with
    | none => cases phase <;> simp [nativeAdd, hvalue]
    | some object => cases hkey
  | some object =>
    obtain ⟨other, rfl, hobject⟩ := hkey.some_left
    cases phase <;> simp [nativeAdd, hvalue, hobject]

/-- The checks tell no two objects of the same bytes apart. -/
theorem owArguments_same {phase : Phase} {publicKey publicKey' value value' : Argument}
    (hkey : SameArgument publicKey publicKey') (hvalue : SameArgument value value') :
    (∃ e, phase.owArguments publicKey value = .error e ∧
      phase.owArguments publicKey' value' = .error e) ∨
    ∃ object object', value = some object ∧ value' = some object' ∧
      object.bytes = object'.bytes ∧ phase.owArguments publicKey value = .ok object ∧
      phase.owArguments publicKey' value' = .ok object' := by
  cases value with
  | none =>
    cases value' with
    | some object => cases hvalue
    | none =>
      cases publicKey with
      | none =>
        cases publicKey' with
        | none => cases phase <;> exact Or.inl ⟨_, rfl, rfl⟩
        | some object => cases hkey
      | some object =>
        obtain ⟨other, rfl, -⟩ := hkey.some_left
        cases phase <;> exact Or.inl ⟨_, rfl, rfl⟩
  | some object =>
    obtain ⟨object', rfl, hbytes⟩ := hvalue.some_left
    cases publicKey with
    | none =>
      cases publicKey' with
      | none =>
        cases phase with
        | nonceCommitment => exact Or.inr ⟨object, object', rfl, rfl, hbytes, rfl, rfl⟩
        | nonce => exact Or.inl ⟨_, rfl, rfl⟩
        | partialSignature => exact Or.inl ⟨_, rfl, rfl⟩
      | some other => cases hkey
    | some other =>
      obtain ⟨other', rfl, -⟩ := hkey.some_left
      cases phase <;> exact Or.inr ⟨object, object', rfl, rfl, hbytes, rfl, rfl⟩

variable {s t : Session native} {c d : Call}

theorem same_of_forgotten
    (h : forgotten ((machine native c).run s) = forgotten ((machine native d).run t)) :
    outcome (machine native) s c = outcome (machine native) t d ∧
      (next (machine native) s c).forget = (next (machine native) t d).forget := by
  unfold outcome next
  cases hc : (machine native c).run s with
  | ok v u =>
    cases hd : (machine native d).run t with
    | ok w x =>
      rw [hc, hd] at h
      obtain ⟨rfl, hforget⟩ := EStateM.Result.ok.inj h
      exact ⟨rfl, hforget⟩
    | error e x =>
      rw [hc, hd] at h
      cases h
  | error e u =>
    cases hd : (machine native d).run t with
    | ok w x =>
      rw [hc, hd] at h
      cases h
    | error e' x =>
      rw [hc, hd] at h
      obtain ⟨rfl, hforget⟩ := EStateM.Result.error.inj h
      exact ⟨rfl, hforget⟩

/-- Calls of the same bytes in sessions of the same contents do the same, if
both find their duplicates by content. -/
theorem step_same (hst : s.forget = t.forget) (hsame : SameBytes c d) (hc : ByContent s c)
    (hd : ByContent t d) :
    outcome (machine native) s c = outcome (machine native) t d ∧
      (next (machine native) s c).forget = (next (machine native) t d).forget := by
  apply same_of_forgotten
  cases hsame with
  | read hread => rw [← machine_forget hread, ← machine_forget hread, hst]
  | added phase hkey hvalue =>
    rw [machine_addCall, machine_addCall]
    rcases @owArguments_same phase _ _ _ _ hkey hvalue with
      ⟨e, he, he'⟩ | ⟨object, object', rfl, rfl, hbytes, hok, hok'⟩
    · rw [he, he']
      simp only [forgotten, hst]
    · have hsession : s.forget.session = t.forget.session := by rw [hst]
      change s.session = t.session at hsession
      have hfound : s.hasThisSigner phase object = t.hasThisSigner phase object' := by
        rw [Bool.eq_iff_iff, hc phase object (checked_addCall hok),
          hd phase object' (checked_addCall hok'), ← hasBytes_forget, hst, hasBytes_forget, hbytes]
      rw [hok, hok']
      simp only [hfound, hsession, nativeAdd_same hkey hbytes]
      cases t.hasThisSigner phase object' with
      | true => simp only [if_true, forgotten, hst]
      | false =>
        simp only [Bool.false_eq_true, if_false]
        cases nativeAdd native phase _ object' t.session with
        | error e => simp only [forgotten, hst]
        | ok session =>
          have hreplace : (s.replace session).forget = (t.replace session).forget :=
            congrArg (fun u : Session native => u.replace session) hst
          simp only [forgotten, push_forget, hreplace, BufferObject.forget_eq hbytes]

/-! Runs of the same bytes. -/

/-- Two runs of a session with calls of the same bytes. -/
def SameCalls (log log' : List (Event native)) : Prop :=
  List.Forall₂ (fun e e' => SameBytes e.call e'.call) log log'

theorem runs_same {s₀ : Session native} {log log' : List (Event native)}
    (run : Run (machine native) s₀ log s) (run' : Run (machine native) s₀ log' t)
    (hsame : SameCalls log log') (hcontent : ∀ e ∈ log, ByContent e.before e.call)
    (hcontent' : ∀ e ∈ log', ByContent e.before e.call) :
    List.Forall₂ (fun e e' => e.outcome = e'.outcome) log log' ∧ s.forget = t.forget := by
  induction run generalizing log' t with
  | start =>
    cases hsame with
    | nil =>
      cases run' with
      | start => exact ⟨.nil, rfl⟩
  | call c run ih =>
    cases hsame with
    | cons hcall hrest =>
      cases run' with
      | call d run' =>
        rw [List.forall_mem_cons] at hcontent hcontent'
        obtain ⟨houtcomes, hst⟩ := ih run' hrest hcontent.2 hcontent'.2
        obtain ⟨houtcome, hnext⟩ := step_same hst hcall hcontent.1 hcontent'.1
        exact ⟨.cons houtcome houtcomes, hnext⟩

/-- A value whose bytes were added before is refused, if it is found by content. -/
theorem duplicate_refused {phase : Phase} {publicKey value : Argument} {object : BufferObject}
    (hok : phase.owArguments publicKey value = .ok object)
    (hcontent : ByContent s (phase.addCall publicKey value))
    (hadded : s.hasBytes phase object.bytes) :
    outcome (machine native) s (phase.addCall publicKey value) = .error phase.duplicate := by
  have hfound := (hcontent phase object (checked_addCall hok)).mpr hadded
  apply outcome_error (t := s)
  rw [machine_addCall, hok]
  simp only [hfound, if_true]

/-- Runs whose duplicates are found by content do not depend on the identities
of buffers, and refuse what has the bytes of a value that was accepted. -/
theorem contents_decide {message : String} {keyPair : KeyPair native}
    {signerPublicKeys : List Buffer} {s₀ s t : Session native} {log log' : List (Event native)}
    (hnew : new native message keyPair signerPublicKeys = .ok s₀)
    (run : Run (machine native) s₀ log s) (run' : Run (machine native) s₀ log' t)
    (hsame : SameCalls log log') (hcontent : ∀ e ∈ log, ByContent e.before e.call)
    (hcontent' : ∀ e ∈ log', ByContent e.before e.call) :
    List.Forall₂ (fun e e' => e.outcome = e'.outcome) log log' ∧
    ∀ newer e older phase publicKey value object, log = newer ++ e :: older →
      e.call = phase.addCall publicKey value → phase.owArguments publicKey value = .ok object →
      (∃ added ∈ accepted (Call.added phase) older, added.bytes = object.bytes) →
      e.outcome = .error phase.duplicate := by
  refine ⟨(runs_same run run' hsame hcontent hcontent').1, ?_⟩
  intro newer e older phase publicKey value object hlog hcall hok hadded
  have he : e ∈ log := by simp [hlog]
  rw [hlog] at run
  obtain ⟨u, hrun, -⟩ := run.split
  cases hrun with
  | @call older x c hrun =>
    have hcached := ((Refines.start hnew).run hrun).cached phase
    change c = _ at hcall
    have hduplicate := hcontent _ he
    change ByContent x c at hduplicate
    rw [hcall] at hduplicate
    have hbytes : x.hasBytes phase object.bytes := by
      rw [MultiSigSession.hasBytes, hcached]
      exact hadded
    change outcome (machine native) x c = _
    rw [hcall]
    exact duplicate_refused hok hduplicate hbytes

/-! Samples. -/

instance (s : Session native) (phase : Phase) (bytes : Buffer) :
    Decidable (s.hasBytes phase bytes) :=
  inferInstanceAs (Decidable (∃ added ∈ s.cached phase, added.bytes = bytes))

theorem byContent_iff :
    ByContent s c ↔ ∀ phase ∈ [Phase.nonceCommitment, .nonce, .partialSignature],
      ∀ value ∈ (c.checked phase).toList,
        (s.hasThisSigner phase value = true ↔ s.hasBytes phase value.bytes) := by
  constructor
  · intro h phase _ value hvalue
    exact h phase value (Option.mem_toList.mp hvalue)
  · intro h phase value hvalue
    exact h phase (by cases phase <;> decide) value (Option.mem_toList.mpr hvalue)

instance (s : Session native) (c : Call) : Decidable (ByContent s c) :=
  decidable_of_iff _ byContent_iff.symm

/-- A run that adds the same commitment twice. -/
def Sample.twice (ref : ℕ) : List (Event Sample.module) × Session Sample.module :=
  execute (machine Sample.module) Sample.start
    [Sample.commit ref 8 1, Sample.commit ref 8 1, .generateNonceCommitment]

theorem Sample.twice_same (ref ref' : ℕ) :
    SameCalls (Sample.twice ref).1 (Sample.twice ref').1 :=
  .cons (.read fun phase _ _ h => by cases phase <;> cases h)
    (.cons (.added .nonceCommitment rfl rfl) (.cons (.added .nonceCommitment rfl rfl) .nil))

theorem contents_decide_twice :
    List.Forall₂ (fun e e' => e.outcome = e'.outcome) (Sample.twice 0).1 (Sample.twice 5).1 ∧
    ∀ newer e older phase publicKey value object, (Sample.twice 0).1 = newer ++ e :: older →
      e.call = Phase.addCall phase publicKey value →
      phase.owArguments publicKey value = .ok object →
      (∃ added ∈ accepted (Call.added phase) older, added.bytes = object.bytes) →
      e.outcome = .error phase.duplicate :=
  contents_decide Sample.new_start (run_execute _ _ _) (run_execute _ _ _)
    (Sample.twice_same 0 5) (by decide +kernel) (by decide +kernel)

/-- A copy of a commitment is accepted, where the commitment itself is refused. -/
theorem copied_commitment_accepted :
    new Sample.module "message" Sample.keyPair [[4, 7], [4, 8], [4, 9]] = .ok Sample.start ∧
    SameCalls
      (execute (machine Sample.module) Sample.start [Sample.commit 0 8 1, Sample.commit 0 8 1]).1
      (execute (machine Sample.module) Sample.start [Sample.commit 0 8 1, Sample.commit 2 8 1]).1 ∧
    (execute (machine Sample.module) Sample.start
      [Sample.commit 0 8 1, Sample.commit 0 8 1]).1.map Entry.succeeded = [false, true] ∧
    (execute (machine Sample.module) Sample.start
      [Sample.commit 0 8 1, Sample.commit 2 8 1]).1.map Entry.succeeded = [true, true] :=
  ⟨Sample.new_start,
    .cons (.added .nonceCommitment rfl rfl) (.cons (.added .nonceCommitment rfl rfl) .nil),
    by decide +kernel, by decide +kernel⟩

end ThalerNodelib.MultiSig
