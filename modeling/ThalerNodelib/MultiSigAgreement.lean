import ThalerNodelib.MultiSigProtocol
import ThalerNodelib.SignerOrder

/-!
The signature that signers end with. Over a builder of client-core that records
what it is given and nothing else, each signer's session holds only values that
the signers generated themselves, so the sessions that can be signed hold the
same values, and all the signatures are one. Here the network may also repeat packets.
-/
namespace ThalerNodelib.MultiSig

open Js Native Crates KeyPairs Runs Parties NativeMultiSig FunctionTypes MultiSigBuilders

/-- What a session of client-core records. -/
structure Contents (types : ChainTypes) where
  message : H256
  signers : List types.PublicKey
  self : types.PublicKey
  value : Phase → types.PublicKey → Option H256

/-- Nothing changed but that a value of one signer may have come in. -/
structure Contents.Gains {types : ChainTypes} (before after : Contents types) (phase : Phase)
    (signer : types.PublicKey) (value : H256) : Prop where
  message : after.message = before.message
  signers : after.signers = before.signers
  self : after.self = before.self
  value : ∀ p k v, after.value p k = some v →
    (p = phase ∧ k = signer ∧ v = value) ∨ before.value p k = some v

def generateValue {types : ChainTypes} (multiSig : MultiSigCrate types) :
    Phase → multiSig.Session → Except String (H256 × multiSig.Session)
  | .nonceCommitment => multiSig.nonceCommitment
  | .nonce => multiSig.nonce
  | .partialSignature => multiSig.partialSignature

def addValue {types : ChainTypes} (multiSig : MultiSigCrate types) :
    Phase → multiSig.Session → types.PublicKey → H256 → Except String multiSig.Session
  | .nonceCommitment => multiSig.addNonceCommitment
  | .nonce => multiSig.addNonce
  | .partialSignature => multiSig.addPartialSignature

/-- What client-core promises of a builder: it is restored from its bytes, begins
without values, records what it generates and what it is given, signs only when
it has every value, and signs with nothing but what it records. -/
structure RecordLaws {types : ChainTypes} (multiSig : MultiSigCrate types)
    (contents : multiSig.Session → Contents types) : Prop where
  restore : ∀ s, multiSig.fromIncompleteInsecure (multiSig.toIncomplete s) = .ok s
  new : ∀ message signers self privateKey s,
    multiSig.new message signers self privateKey = .ok s →
    (contents s).message = message ∧ (contents s).signers = signers ∧ (contents s).self = self ∧
      ∀ phase signer, (contents s).value phase signer = none
  generated : ∀ phase s value t, generateValue multiSig phase s = .ok (value, t) →
    (contents s).Gains (contents t) phase (contents s).self value
  added : ∀ phase s signer value t, addValue multiSig phase s signer value = .ok t →
    (contents s).Gains (contents t) phase signer value
  complete : ∀ s signature, multiSig.signature s = .ok signature →
    ∀ phase, ∀ signer ∈ (contents s).signers, (contents s).value phase signer ≠ none
  determined : ∀ s t, (contents s).message = (contents t).message →
    (contents s).signers.Perm (contents t).signers →
    (∀ phase, ∀ signer ∈ (contents s).signers,
      (contents s).value phase signer = (contents t).value phase signer) →
    multiSig.signature s = multiSig.signature t

section
variable {crates : Crates} {multiSig : MultiSigCrate crates.types}
  {contents : multiSig.Session → Contents crates.types}

/-- The public key that a buffer denotes. -/
def denoted (crates : Crates) (publicKey : Buffer) : Option crates.types.PublicKey :=
  (publicKeyArgument crates publicKey).toOption

theorem toOption_eq_some {α : Type} {r : Except JsError α} {v : α} :
    r.toOption = some v ↔ r = .ok v := by
  cases r <;> simp [Except.toOption]

theorem chainNeon_eq_ok {α : Type} {r : Except String α} {text : String} {v : α} :
    chainNeon r text = .ok v ↔ r = .ok v := by
  cases r <;> simp [chainNeon]

theorem mapM_toOption {β γ : Type} {f : β → Except JsError γ} {bs : List β} {cs : List γ}
    (h : bs.mapM f = .ok cs) : (bs.map fun b => (f b).toOption) = cs.map some := by
  induction (mapM_eq_ok f bs cs).mp h with
  | nil => rfl
  | cons hb hrest ih =>
    rw [List.map_cons, List.map_cons, ih ((mapM_eq_ok f _ _).mpr hrest), hb]
    rfl

theorem nativeGenerate_eq_ok {phase : Phase} {session value session' : Buffer}
    (h : nativeGenerate (nativeModule crates multiSig) phase session = .ok (value, session')) :
    ∃ b v b', multiSig.fromIncompleteInsecure session = .ok b ∧
      generateValue multiSig phase b = .ok (v, b') ∧ value = v.val ∧
      session' = multiSig.toIncomplete b' := by
  have hgenerate : ∀ (transition : multiSig.Session → Except String (H256 × multiSig.Session))
      (text : String), NativeMultiSig.generate crates multiSig transition text session =
        .ok (value, session') →
      ∃ b v b', multiSig.fromIncompleteInsecure session = .ok b ∧ transition b = .ok (v, b') ∧
        value = v.val ∧ session' = multiSig.toIncomplete b' := by
    intro transition text hok
    unfold NativeMultiSig.generate restore at hok
    obtain ⟨b, hb, hvalue⟩ := bind_eq_ok.mp hok
    obtain ⟨⟨v, b'⟩, hv, hdone⟩ := bind_eq_ok.mp hvalue
    obtain ⟨rfl, rfl⟩ := Prod.mk.inj (Except.ok.inj hdone)
    exact ⟨b, v, b', chainNeon_eq_ok.mp hb, chainNeon_eq_ok.mp hv, rfl, rfl⟩
  cases phase with
  | nonceCommitment => exact hgenerate _ _ h
  | nonce => exact hgenerate _ _ h
  | partialSignature => exact hgenerate _ _ h

theorem nativeAdd_eq_ok {phase : Phase} {publicKey : Argument} {value : BufferObject}
    {session session' : Buffer}
    (h : nativeAdd (nativeModule crates multiSig) phase publicKey value session = .ok session') :
    ∃ object signer v b b', publicKey = some object ∧ denoted crates object.bytes = some signer ∧
      v.val = value.bytes ∧ multiSig.fromIncompleteInsecure session = .ok b ∧
      addValue multiSig phase b signer v = .ok b' ∧ session' = multiSig.toIncomplete b' := by
  have hadd : ∀ (transition : multiSig.Session → crates.types.PublicKey → H256 →
      Except String multiSig.Session) (text : String),
      NativeMultiSig.add crates multiSig transition text session
        (publicKey.map BufferObject.bytes) value.bytes = .ok session' →
      ∃ object signer v b b', publicKey = some object ∧
        denoted crates object.bytes = some signer ∧ v.val = value.bytes ∧
        multiSig.fromIncompleteInsecure session = .ok b ∧ transition b signer v = .ok b' ∧
        session' = multiSig.toIncomplete b' := by
    intro transition text hok
    unfold NativeMultiSig.add restore at hok
    obtain ⟨b, hb, hread⟩ := bind_eq_ok.mp hok
    obtain ⟨bytes, hbytes, hparse⟩ := bind_eq_ok.mp hread
    obtain ⟨signer, hsigner, hhash⟩ := bind_eq_ok.mp hparse
    obtain ⟨v, hv, hadded⟩ := bind_eq_ok.mp hhash
    obtain ⟨b', hb', hdone⟩ := bind_eq_ok.mp hadded
    cases publicKey with
    | none => cases hbytes
    | some object =>
      obtain rfl : object.bytes = bytes := Except.ok.inj hbytes
      unfold h256BufferArgument NativeMultiSig.h256 at hv
      split at hv
      · obtain rfl := Except.ok.inj hv
        exact ⟨object, signer, _, b, b', rfl, toOption_eq_some.mpr hsigner, rfl,
          chainNeon_eq_ok.mp hb, chainNeon_eq_ok.mp hb', (Except.ok.inj hdone).symm⟩
      · cases hv
  cases phase with
  | nonceCommitment => exact hadd _ _ h
  | nonce =>
    cases publicKey with
    | none => cases h
    | some object => exact hadd _ _ h
  | partialSignature =>
    cases publicKey with
    | none => cases h
    | some object => exact hadd _ _ h

end

section
variable {crates : Crates} {multiSig : MultiSigCrate crates.types}
  {contents : multiSig.Session → Contents crates.types} {n : ℕ}
  (message : H256) (publicKey : Fin n → crates.types.PublicKey)

/-- A session of client-core that is about the message and the signers, and
holds only values that the signers generated. -/
structure Genuine (contents : multiSig.Session → Contents crates.types)
    (state : Fin n → Session (nativeModule crates multiSig)) (i : Fin n)
    (b : multiSig.Session) : Prop where
  message : (contents b).message = message
  signers : (contents b).signers.Perm ((List.finRange n).map publicKey)
  self : (contents b).self = publicKey i
  value : ∀ phase signer v, (contents b).value phase signer = some v →
    ∃ j, signer = publicKey j ∧ (state j).generated phase = some v.val

/-- Each session and each signature is that of a genuine session of client-core. -/
structure Faithful (contents : multiSig.Session → Contents crates.types)
    (state : Fin n → Session (nativeModule crates multiSig)) : Prop where
  session : ∀ i, ∃ b, (state i).session = multiSig.toIncomplete b ∧
    Genuine message publicKey contents state i b
  signature : ∀ i signature, (state i).signature = some signature → ∃ b final,
    Genuine message publicKey contents state i b ∧ multiSig.signature b = .ok final ∧
      signature = multiSig.serializeDefault final

variable {message} {publicKey}
  {state later : Fin n → Session (nativeModule crates multiSig)}

theorem Genuine.mono {i : Fin n} {b : multiSig.Session}
    (h : Genuine message publicKey contents state i b)
    (hstays : ∀ j phase value, (state j).generated phase = some value →
      (later j).generated phase = some value) :
    Genuine message publicKey contents later i b := by
  refine ⟨h.message, h.signers, h.self, ?_⟩
  intro phase signer v hv
  obtain ⟨j, hj, hvalue⟩ := h.value phase signer v hv
  exact ⟨j, hj, hstays j phase _ hvalue⟩

theorem Genuine.gain {i j : Fin n} {b b' : multiSig.Session} {phase : Phase} {v : H256}
    (h : Genuine message publicKey contents state i b)
    (hgains : (contents b).Gains (contents b') phase (publicKey j) v)
    (hv : (state j).generated phase = some v.val) :
    Genuine message publicKey contents state i b' := by
  refine ⟨hgains.message.trans h.message, ?_, hgains.self.trans h.self, ?_⟩
  · rw [hgains.signers]
    exact h.signers
  · intro p k w hw
    rcases hgains.value p k w hw with ⟨rfl, rfl, rfl⟩ | hold
    · exact ⟨j, rfl, hv⟩
    · exact h.value p k w hold

/-- Two signatures of genuine sessions are of the same values. -/
theorem Genuine.same (laws : RecordLaws multiSig contents)
    (hdistinct : Function.Injective publicKey) {i j : Fin n} {b b' : multiSig.Session}
    {final final' : crates.types.SchnorrSignature}
    (h : Genuine message publicKey contents state i b)
    (h' : Genuine message publicKey contents state j b')
    (hfinal : multiSig.signature b = .ok final) (hfinal' : multiSig.signature b' = .ok final') :
    final = final' := by
  have hperm := h.signers.trans h'.signers.symm
  have hsame := laws.determined b b' (h.message.trans h'.message.symm) hperm (by
    intro phase signer hsigner
    obtain ⟨v, hv⟩ := Option.ne_none_iff_exists'.mp
      (laws.complete b final hfinal phase signer hsigner)
    obtain ⟨w, hw⟩ := Option.ne_none_iff_exists'.mp
      (laws.complete b' final' hfinal' phase signer (hperm.mem_iff.mp hsigner))
    obtain ⟨k, hk, hkv⟩ := h.value phase signer v hv
    obtain ⟨m, hm, hmw⟩ := h'.value phase signer w hw
    obtain rfl : k = m := hdistinct (hk.symm.trans hm)
    rw [hv, hw, Subtype.ext (Option.some.inj (hkv.symm.trans hmw))])
  rw [hfinal, hfinal'] at hsame
  exact Except.ok.inj hsame

/-- What a successful call does to the session of client-core. -/
theorem Step.restored (laws : RecordLaws multiSig contents)
    {s t : Session (nativeModule crates multiSig)} {c : Call} {v : Value}
    (h : Step (nativeModule crates multiSig) s c v t) {b : multiSig.Session}
    (hb : s.session = multiSig.toIncomplete b) :
    ∃ b', t.session = multiSig.toIncomplete b' ∧
      (b' = b ∨
        (∃ phase value, c = phase.generateCall ∧ t.generated phase = some value.val ∧
          (contents b).Gains (contents b') phase (contents b).self value) ∨
        ∃ phase object value bytes signer, c = phase.addCall (some object) (some bytes) ∧
          denoted crates object.bytes = some signer ∧ value.val = bytes.bytes ∧
          (contents b).Gains (contents b') phase signer value) := by
  cases h with
  | read _ _ _ => exact ⟨b, hb, Or.inl rfl⟩
  | generated phase value session _ hnative =>
    obtain ⟨b₁, w, b', hrestore, hvalue, rfl, rfl⟩ := nativeGenerate_eq_ok hnative
    rw [hb, laws.restore b] at hrestore
    obtain rfl := Except.ok.inj hrestore
    refine ⟨b', rfl, Or.inr (Or.inl ⟨phase, w, rfl, ?_, laws.generated phase _ _ _ hvalue⟩)⟩
    cases phase <;> rfl
  | added phase publicKey value session _ hnative =>
    obtain ⟨object, signer, w, b₁, b', rfl, hsigner, hw, hrestore, hadd, rfl⟩ :=
      nativeAdd_eq_ok hnative
    rw [hb, laws.restore b] at hrestore
    obtain rfl := Except.ok.inj hrestore
    refine ⟨b', ?_, Or.inr (Or.inr ⟨phase, object, w, value, signer, rfl, hsigner, hw,
      laws.added phase _ _ _ _ hadd⟩)⟩
    rw [push_session]
    rfl
  | signed signature _ _ => exact ⟨b, hb, Or.inl rfl⟩

/-- A signature is kept, or made from the session as it is. -/
theorem Step.signature (laws : RecordLaws multiSig contents)
    {s t : Session (nativeModule crates multiSig)} {c : Call} {v : Value}
    (h : Step (nativeModule crates multiSig) s c v t) {b : multiSig.Session}
    (hb : s.session = multiSig.toIncomplete b) :
    t.signature = s.signature ∨ ∃ final, multiSig.signature b = .ok final ∧
      t.signature = some (multiSig.serializeDefault final) := by
  cases h with
  | read _ _ _ => exact Or.inl rfl
  | generated phase value session _ _ => cases phase <;> exact Or.inl rfl
  | added phase publicKey value session _ _ => cases phase <;> exact Or.inl rfl
  | signed signature _ hnative =>
    change NativeMultiSig.sign crates multiSig s.session = .ok signature at hnative
    unfold NativeMultiSig.sign restore at hnative
    obtain ⟨b₁, hrestore, hsign⟩ := bind_eq_ok.mp hnative
    obtain ⟨final, hfinal, hdone⟩ := bind_eq_ok.mp hsign
    rw [hb, laws.restore b] at hrestore
    obtain rfl := Except.ok.inj hrestore
    exact Or.inr ⟨final, chainNeon_eq_ok.mp hfinal, congrArg some (Except.ok.inj hdone).symm⟩

variable {K : Type} {copies : Bool} {text : String}
  {keyPair : Fin n → KeyPair (nativeModule crates multiSig)} {signerPublicKeys : Fin n → List Buffer}
  {s₀ : Fin n → Session (nativeModule crates multiSig)}
  {x y : Signers (nativeModule crates multiSig) (Option crates.types.PublicKey) n}

/-- The signers under their keys: each party of the protocol is known by what its
public key denotes. -/
abbrev signing (crates : Crates) (multiSig : MultiSigCrate crates.types)
    (publicKey : Fin n → crates.types.PublicKey) :=
  protocol (nativeModule crates multiSig) (denoted crates) fun i => some (publicKey i)

/-- Values come into a session from its own generation or in a packet that was sent. -/
theorem Genuine.step (laws : RecordLaws multiSig contents)
    (hdistinct : Function.Injective publicKey)
    (h : Reachable (signing crates multiSig publicKey) copies s₀ x)
    {i : Fin n} {c : Call} {v : Value}
    (hcall : OwnCall (x.state i) c ∨
      ∃ p, (i, p) ∈ x.flight ∧ c.packet (denoted crates) = some p)
    (hstep : Step (nativeModule crates multiSig) (x.state i) c v (later i))
    (hstays : ∀ j phase value, (x.state j).generated phase = some value →
      (later j).generated phase = some value) {b : multiSig.Session}
    (hb : (x.state i).session = multiSig.toIncomplete b)
    (hgenuine : Genuine message publicKey contents x.state i b) :
    ∃ b', (later i).session = multiSig.toIncomplete b' ∧
      Genuine message publicKey contents later i b' := by
  obtain ⟨b', hb', hchange⟩ := hstep.restored laws hb
  refine ⟨b', hb', ?_⟩
  have hlater := hgenuine.mono hstays
  rcases hchange with rfl | ⟨phase, value, -, hvalue, hgains⟩ |
    ⟨phase, object, value, bytes, signer, rfl, hsigner, hbytes, hgains⟩
  · exact hlater
  · rw [hgenuine.self] at hgains
    exact hlater.gain hgains hvalue
  · rcases hcall with hown | ⟨p, hflight, hpacket⟩
    · have hnone := hown.addition phase
      cases phase <;> cases hnone
    · have hp : p = ⟨phase, some signer, bytes.bytes⟩ := by
        rw [← hsigner]
        cases phase <;> exact (Option.some.inj hpacket).symm
      have hposted := Posted.reachable (fun _ _ heq => hdistinct (Option.some.inj heq)) h
      obtain ⟨j, -, hj, hgenerated⟩ := hposted.generated i p (h.authentic.1 _ hflight)
      rw [hp] at hj hgenerated
      obtain rfl := Option.some.inj hj
      apply hlater.gain hgains
      rw [hbytes]
      exact hstays j phase _ hgenerated

theorem Faithful.step (laws : RecordLaws multiSig contents)
    (hdistinct : Function.Injective publicKey)
    (h : Reachable (signing crates multiSig publicKey) copies s₀ x)
    (hx : Faithful message publicKey contents x.state)
    (hs : Parties.Step (signing crates multiSig publicKey) copies x y) :
    Faithful message publicKey contents y.state := by
  have hstays : ∀ j phase value, (x.state j).generated phase = some value →
      (y.state j).generated phase = some value :=
    fun j phase value hvalue => generated_stays hs hvalue
  rcases hs.parties with ⟨-, hstate⟩ | ⟨i, c, hcall, -, hstate⟩
  · rwa [hstate]
  · have hsame : ∀ j, j ≠ i → y.state j = x.state j := by
      intro j hj
      rw [hstate, Configuration.make_state, if_neg hj]
    have hnext : y.state i = next (machine (nativeModule crates multiSig)) (x.state i) c := by
      rw [hstate, Configuration.make_state, if_pos rfl]
      rfl
    cases hout : outcome (machine (nativeModule crates multiSig)) (x.state i) c with
    | error e =>
      have heq : y.state = x.state := by
        funext j
        by_cases hj : j = i
        · rw [hj, hnext, throw_keeps hout]
        · exact hsame j hj
      rwa [heq]
    | ok v =>
      have hstep := step_of_ok hout
      rw [← hnext] at hstep
      obtain ⟨b, hb, hgenuine⟩ := hx.session i
      constructor
      · intro j
        by_cases hj : j = i
        · rw [hj]
          exact hgenuine.step laws hdistinct h hcall hstep hstays hb
        · obtain ⟨b, hb, hgenuine⟩ := hx.session j
          rw [hsame j hj]
          exact ⟨b, hb, hgenuine.mono hstays⟩
      · intro j signature hsignature
        have hold : ∀ j signature, (x.state j).signature = some signature → ∃ b final,
            Genuine message publicKey contents y.state j b ∧ multiSig.signature b = .ok final ∧
              signature = multiSig.serializeDefault final := by
          intro j signature hsignature
          obtain ⟨b, final, hgenuine, hfinal⟩ := hx.signature j signature hsignature
          exact ⟨b, final, hgenuine.mono hstays, hfinal⟩
        by_cases hj : j = i
        · subst hj
          rcases hstep.signature laws hb with hkept | ⟨final, hfinal, hmade⟩
          · exact hold j signature (by rw [← hkept, hsignature])
          · rw [hsignature] at hmade
            exact ⟨b, final, hgenuine.mono hstays, hfinal, Option.some.inj hmade⟩
        · exact hold j signature (by rw [← hsame j hj, hsignature])

theorem new_message {native : NativeModule} {text : String} {keyPair : KeyPair native}
    {signerPublicKeys : List Buffer} {s : Session native}
    (h : MultiSig.new native text keyPair signerPublicKeys = .ok s) :
    s.message = text ∧ s.signature = none := by
  unfold MultiSig.new at h
  split_ifs at h
  split at h
  · cases h
  · obtain rfl := Except.ok.inj h
    exact ⟨rfl, rfl⟩

/-- The signers as each of them created its session: all for one message, each
with a list of everybody's public keys, in any order and in either encoding. -/
structure Joined (crates : Crates) (multiSig : MultiSigCrate crates.types)
    (publicKey : Fin n → crates.types.PublicKey) (text : String)
    (keyPair : Fin n → KeyPair (nativeModule crates multiSig))
    (signerPublicKeys : Fin n → List Buffer)
    (s₀ : Fin n → Session (nativeModule crates multiSig)) : Prop where
  new : ∀ i, MultiSig.new (nativeModule crates multiSig) text (keyPair i) (signerPublicKeys i) =
    .ok (s₀ i)
  self : ∀ i, (keyPair i).publicKey.bind (denoted crates) = some (publicKey i)
  signers : ∀ i, ((signerPublicKeys i).map fun key =>
    (publicKeyEntry crates (some key)).toOption).Perm
      ((List.finRange n).map fun j => some (publicKey j))

/-- A new session is genuine: it has no values yet. -/
theorem Joined.session (hjoined : Joined crates multiSig publicKey text keyPair signerPublicKeys s₀)
    (laws : RecordLaws multiSig contents) (i : Fin n) :
    ∃ message b, h256StrArgument text = .ok message ∧
      (s₀ i).session = multiSig.toIncomplete b ∧ Genuine message publicKey contents s₀ i b := by
  have hsession := (new_eq_ok (hjoined.new i)).1
  change NativeMultiSig.newSession crates multiSig text ((signerPublicKeys i).map some)
    (keyPair i).publicKey (keyPair i).privateKey = _ at hsession
  unfold NativeMultiSig.newSession at hsession
  obtain ⟨message, hmessage, hkeys⟩ := bind_eq_ok.mp hsession
  obtain ⟨signers, hsigners, hself⟩ := bind_eq_ok.mp hkeys
  obtain ⟨own, hown, hdeserialize⟩ := bind_eq_ok.mp hself
  obtain ⟨self, hpublic, hprivate⟩ := bind_eq_ok.mp hdeserialize
  obtain ⟨bytes, -, hprivateKey⟩ := bind_eq_ok.mp hprivate
  obtain ⟨privateKey, -, hbuilder⟩ := bind_eq_ok.mp hprivateKey
  obtain ⟨b, hb, hdone⟩ := bind_eq_ok.mp hbuilder
  obtain ⟨hmessageEq, hsignersEq, hselfEq, hempty⟩ :=
    laws.new _ _ _ _ b (chainNeon_eq_ok.mp hb)
  refine ⟨message, b, hmessage, (Except.ok.inj hdone).symm, hmessageEq, ?_, ?_, ?_⟩
  · rw [hsignersEq]
    have hread : (signerPublicKeys i).map (fun key =>
        (publicKeyEntry crates (some key)).toOption) = signers.map some := by
      rw [← mapM_toOption hsigners, List.map_map]
      rfl
    have hperm := hjoined.signers i
    rw [hread] at hperm
    apply (List.map_perm_map_iff (Option.some_injective _)).mp
    rw [List.map_map]
    exact hperm
  · rw [hselfEq]
    have hdenoted := hjoined.self i
    cases hkey : (keyPair i).publicKey with
    | none =>
      rw [hkey] at hown
      cases hown
    | some key =>
      rw [hkey] at hown hdenoted
      obtain rfl : key = own := Except.ok.inj hown
      rw [Option.bind_some, denoted, hpublic] at hdenoted
      exact Option.some.inj hdenoted
  · intro phase signer v hv
    rw [hempty phase signer] at hv
    cases hv

theorem Faithful.start (laws : RecordLaws multiSig contents)
    (hjoined : Joined crates multiSig publicKey text keyPair signerPublicKeys s₀)
    (hmessage : h256StrArgument text = .ok message) : Faithful message publicKey contents s₀ := by
  constructor
  · intro i
    obtain ⟨read, b, hread, hb, hgenuine⟩ := hjoined.session laws i
    rw [hmessage] at hread
    obtain rfl := Except.ok.inj hread
    exact ⟨b, hb, hgenuine⟩
  · intro i signature hsignature
    rw [(new_message (hjoined.new i)).2] at hsignature
    cases hsignature

/-- The signers cannot end with different signatures. Whatever order the packets
arrive in, and even if some are lost or repeated: all the signatures that the
signers compute are equal, and all of them verify it with the same result. -/
theorem signatures_agree (laws : RecordLaws multiSig contents)
    (hdistinct : Function.Injective publicKey)
    (hjoined : Joined crates multiSig publicKey text keyPair signerPublicKeys s₀)
    (h : Reachable (signing crates multiSig publicKey) copies s₀ x) {i j : Fin n}
    {signature signature' : Buffer} (hi : (x.state i).signature = some signature)
    (hj : (x.state j).signature = some signature') :
    signature = signature' ∧
      ((x.state i).verify none).toOption = ((x.state j).verify none).toOption := by
  obtain ⟨message, -, hmessage, -, -⟩ := hjoined.session laws i
  have hfaithful : Faithful message publicKey contents x.state :=
    h.invariant (fun x => Faithful message publicKey contents x.state)
      (Faithful.start laws hjoined hmessage) fun _ _ hx ih hs => ih.step laws hdistinct hx hs
  obtain ⟨b, final, hgenuine, hfinal, rfl⟩ := hfaithful.signature i signature hi
  obtain ⟨b', final', hgenuine', hfinal', rfl⟩ := hfaithful.signature j signature' hj
  obtain rfl := hgenuine.same laws hdistinct hgenuine' hfinal hfinal'
  refine ⟨rfl, ?_⟩
  have hverify : ∀ k, (x.state k).signature = some (multiSig.serializeDefault final) →
      (x.state k).verify none = NativeMultiSig.verify crates multiSig
        (multiSig.serializeDefault final) text ((signerPublicKeys k).map some) := by
    intro k hk
    have htext : (x.state k).message = text :=
      (run_keeps (fun t => t.message) (fun _ _ _ _ hstep => message_step hstep) (h.run k)).trans
        (new_message (hjoined.new k)).1
    have hsigners : (x.state k).signerPublicKeys = signerPublicKeys k :=
      (Fixed.run (hjoined.new k) (h.run k)).signers.trans (new_eq_ok (hjoined.new k)).2.1
    unfold MultiSigSession.verify
    rw [hk, htext, hsigners]
    rfl
  rw [hverify i hi, hverify j hj]
  apply verify_same
  unfold SameSigners
  rw [List.map_map, List.map_map]
  exact (hjoined.signers i).trans (hjoined.signers j).symm

end

/-! A builder of client-core that records bytes, and two signers who use it. -/
namespace Recorded

open Crates.Sample

/-- The public key and the value that a byte stands for. -/
def keyOf (b : UInt8) : Bytes 33 := fixed 33 (2 :: privateKey b)

def valueOf (b : UInt8) : H256 := fixed 32 [b]

def keyByte (signer : Bytes 33) : UInt8 := signer.val.getD 1 0

def valueByte (value : H256) : UInt8 := value.val.headD 0

def slot : Phase → UInt8
  | .nonceCommitment => 1
  | .nonce => 2
  | .partialSignature => 3

/-- A kind, a signer and a value: signers have kind 0, values that of their phase. -/
def entries : Buffer → List (UInt8 × UInt8 × UInt8)
  | kind :: signer :: value :: rest => (kind, signer, value) :: entries rest
  | _ => []

def recorded (rest : Buffer) (phase : Phase) (signer : Bytes 33) : Option H256 :=
  (entries rest).findSome? fun e =>
    if e.1 = slot phase ∧ keyOf e.2.1 = signer then some (valueOf e.2.2) else none

def contents : Buffer → Contents Crates.Sample.crates.types
  | message :: self :: rest =>
    ⟨valueOf message, (entries rest).filterMap fun e => if e.1 = 0 then some (keyOf e.2.1) else none,
      keyOf self, recorded rest⟩
  | _ => ⟨valueOf 0, [], keyOf 0, fun _ _ => none⟩

def create (message : H256) (signers : List (Bytes 33)) (self : Bytes 33) : Except String Buffer :=
  if valueOf (valueByte message) = message ∧
      ∀ signer ∈ self :: signers, keyOf (keyByte signer) = signer then
    .ok (valueByte message :: keyByte self :: signers.flatMap fun signer => [0, keyByte signer, 0])
  else .error "Unknown signer"

def record (phase : Phase) (session : Buffer) (signer : Bytes 33) (value : H256) :
    Except String Buffer :=
  match session with
  | message :: self :: rest =>
    if keyOf (keyByte signer) = signer ∧ valueOf (valueByte value) = value then
      .ok (message :: self :: slot phase :: keyByte signer :: valueByte value :: rest)
    else .error "Unknown signer"
  | _ => .error "Malformed session"

def issue (phase : Phase) (session : Buffer) : Except String (H256 × Buffer) := do
  let value := valueOf (slot phase + session.getD 1 0)
  return (value, ← record phase session (contents session).self value)

def phases : List Phase := [.nonceCommitment, .nonce, .partialSignature]

/-- Shows the message and the sum of the partial signatures. -/
def finish (session : Buffer) : Except String (Bytes 64) :=
  let c := contents session
  if ∀ phase ∈ phases, ∀ signer ∈ c.signers, c.value phase signer ≠ none then
    .ok (fixed 64 [valueByte c.message, .ofNat (c.signers.map fun signer =>
      ((c.value .partialSignature signer).elim 0 valueByte).toNat).sum])
  else .error "Incomplete session"

def multiSig : MultiSigCrate Crates.Sample.crates.types :=
  { MultiSigBuilders.Sample.multiSig with
    Session := Buffer
    new := fun message signers self _ => create message signers self
    toIncomplete := id
    fromIncompleteInsecure := .ok
    nonceCommitment := issue .nonceCommitment
    addNonceCommitment := record .nonceCommitment
    nonce := issue .nonce
    addNonce := record .nonce
    partialSignature := issue .partialSignature
    addPartialSignature := record .partialSignature
    signature := finish }

theorem slot_injective {phase phase' : Phase} (h : slot phase = slot phase') : phase = phase' := by
  cases phase <;> cases phase' <;> first | rfl | (revert h; decide)

theorem slot_ne_zero (phase : Phase) : slot phase ≠ 0 := by cases phase <;> decide

theorem record_gains {phase : Phase} {session session' : Buffer} {signer : Bytes 33} {value : H256}
    (h : record phase session signer value = .ok session') :
    (contents session).Gains (contents session') phase signer value := by
  unfold record at h
  split at h
  · rename_i message self rest
    split_ifs at h with hread
    obtain rfl := Except.ok.inj h
    refine ⟨rfl, ?_, rfl, ?_⟩
    · cases phase <;> rfl
    · intro p k v hv
      change recorded _ p k = some v at hv
      unfold recorded entries at hv
      rw [List.findSome?_cons] at hv
      split at hv
      · rename_i w hw
        split_ifs at hw with hslot
        obtain rfl := Option.some.inj hw
        obtain rfl := Option.some.inj hv
        left
        refine ⟨?_, ?_, hread.2⟩
        · exact (slot_injective hslot.1).symm
        · rw [← hslot.2, hread.1]
      · exact Or.inr hv
  · cases h

theorem create_contents {message : H256} {signers : List (Bytes 33)} {self : Bytes 33}
    {session : Buffer} (h : create message signers self = .ok session) :
    (contents session).message = message ∧ (contents session).signers = signers ∧
      (contents session).self = self ∧ ∀ phase signer, (contents session).value phase signer = none := by
  unfold create at h
  split_ifs at h with hread
  obtain ⟨hmessage, hkeys⟩ := hread
  obtain rfl := Except.ok.inj h
  have hentries : entries (signers.flatMap fun signer => [0, keyByte signer, 0]) =
      signers.map fun signer => (0, keyByte signer, 0) := by
    clear hkeys h
    induction signers with
    | nil => rfl
    | cons signer signers ih =>
      rw [List.flatMap_cons, List.map_cons, ← ih]
      rfl
  refine ⟨hmessage, ?_, hkeys self (List.mem_cons_self ..), ?_⟩
  · change (entries _).filterMap _ = _
    rw [hentries, List.filterMap_map]
    clear hentries h
    induction signers with
    | nil => rfl
    | cons signer signers ih =>
      have hsigner := hkeys signer (by simp)
      have hrest := ih fun other hother => hkeys other (by
        rcases List.mem_cons.mp hother with rfl | hother
        · exact List.mem_cons_self ..
        · simp [hother])
      simp only [List.filterMap_cons, Function.comp_apply, if_true, hsigner]
      exact congrArg (List.cons signer) hrest
  · intro phase signer
    change recorded _ phase signer = none
    unfold recorded
    rw [hentries, List.findSome?_eq_none_iff]
    intro e he
    obtain ⟨other, -, rfl⟩ := List.mem_map.mp he
    exact if_neg fun hslot => slot_ne_zero phase hslot.1.symm

theorem record_laws : RecordLaws multiSig contents where
  restore _ := rfl
  new := by
    intro message signers self privateKey session h
    exact create_contents h
  generated := by
    intro phase session value session' h
    have hissue : issue phase session = .ok (value, session') := by cases phase <;> exact h
    unfold issue at hissue
    obtain ⟨updated, hrecord, hdone⟩ := bind_eq_ok.mp hissue
    obtain ⟨rfl, rfl⟩ := Prod.mk.inj (Except.ok.inj hdone)
    exact record_gains hrecord
  added := by
    intro phase session signer value session' h
    have hrecord : record phase session signer value = .ok session' := by cases phase <;> exact h
    exact record_gains hrecord
  complete := by
    intro session signature h phase
    change finish session = .ok signature at h
    unfold finish at h
    simp only at h
    split_ifs at h with hall
    exact hall phase (by cases phase <;> simp [phases])
  determined := by
    intro s t hmessage hsigners hvalues
    change finish s = finish t
    unfold finish
    have hall : (∀ phase ∈ phases, ∀ signer ∈ (contents s).signers,
        (contents s).value phase signer ≠ none) ↔
        ∀ phase ∈ phases, ∀ signer ∈ (contents t).signers,
          (contents t).value phase signer ≠ none := by
      apply forall_congr'
      intro phase
      apply imp_congr_right
      intro _
      constructor
      · intro h signer hsigner
        have hmem := hsigners.mem_iff.mpr hsigner
        rw [← hvalues phase signer hmem]
        exact h signer hmem
      · intro h signer hsigner
        rw [hvalues phase signer hsigner]
        exact h signer (hsigners.mem_iff.mp hsigner)
    have hsum : ((contents s).signers.map fun signer =>
        (((contents s).value .partialSignature signer).elim 0 valueByte).toNat).sum =
        ((contents t).signers.map fun signer =>
          (((contents t).value .partialSignature signer).elim 0 valueByte).toNat).sum := by
      rw [← (hsigners.map _).sum_eq]
      congr 1
      apply List.map_congr_left
      intro signer hsigner
      rw [hvalues .partialSignature signer hsigner]
    simp only [hall, hsum, hmessage]

def keyPair (b : UInt8) : KeyPair (nativeModule Crates.Sample.crates multiSig) :=
  ⟨some (MultiSigBuilders.Sample.publicKey b), some (2 :: privateKey b), some (privateKey b),
    .privateKey rfl rfl⟩

def publicKey (i : Fin 2) : Crates.Sample.crates.types.PublicKey := keyOf (7 + UInt8.ofNat i.val)

/-- Both keys, the signer's own last. -/
def signerPublicKeys (i : Fin 2) : List Buffer :=
  [2 :: privateKey (8 - UInt8.ofNat i.val),
    MultiSigBuilders.Sample.publicKey (7 + UInt8.ofNat i.val)]

def start (i : Fin 2) : Session (nativeModule Crates.Sample.crates multiSig) where
  message := hexEncode (privateKey 9)
  message_nonempty := by decide +kernel
  keyPair := keyPair (7 + UInt8.ofNat i.val)
  signerPublicKeys := signerPublicKeys i
  two_signers := by rfl
  session := [9, 7 + UInt8.ofNat i.val, 0, 8 - UInt8.ofNat i.val, 0, 0, 7 + UInt8.ofNat i.val, 0]
  nonceCommitment := none
  coSignerNonceCommitments := []
  nonce := none
  coSignerNonces := []
  partialSignature := none
  coSignerSignatures := []
  signature := none

/-- A packet from the other signer arrives as new buffers. -/
def arrive (phase : Phase) (ref : ℕ) (i : Fin 2) (value : UInt8) : Action (Fin 2) Call :=
  .deliver i (phase.addCall (some ⟨ref, MultiSigBuilders.Sample.publicKey (8 - UInt8.ofNat i.val)⟩)
    (some ⟨ref + 1, (valueOf value).val⟩))

/-- Both signers go through the phases and sign; the second is ahead where it can be. -/
def schedule (i j : Fin 2) : List (Action (Fin 2) Call) :=
  [.act j .generateNonceCommitment, .act i .generateNonceCommitment,
    arrive .nonceCommitment 0 i 9, arrive .nonceCommitment 0 j 8,
    .act j .generateNonce, .act i .generateNonce, arrive .nonce 2 j 9, arrive .nonce 2 i 10,
    .act j .partialSign, arrive .partialSignature 4 i 11, .act i .partialSign, .act i .sign,
    arrive .partialSignature 4 j 10, .act j .sign]

theorem joined :
    Joined Crates.Sample.crates multiSig publicKey (hexEncode (privateKey 9))
      (fun i => keyPair (7 + UInt8.ofNat i.val)) signerPublicKeys start := by
  have hsession : ∀ i : Fin 2, NativeMultiSig.newSession Crates.Sample.crates multiSig
      (hexEncode (privateKey 9)) ((signerPublicKeys i).map some)
      (keyPair (7 + UInt8.ofNat i.val)).publicKey (keyPair (7 + UInt8.ofNat i.val)).privateKey =
        .ok (start i).session := by decide +kernel
  refine ⟨?_, by decide +kernel, by decide +kernel⟩
  intro i
  have hnative : (nativeModule Crates.Sample.crates multiSig).multiSig.newSession
      (hexEncode (privateKey 9)) (signerPublicKeys i) (keyPair (7 + UInt8.ofNat i.val)).publicKey
      (keyPair (7 + UInt8.ofNat i.val)).privateKey = .ok (start i).session := hsession i
  have hmessage : hexEncode (privateKey 9) ≠ "" := (start i).message_nonempty
  have htwo : 2 ≤ (signerPublicKeys i).length := (start i).two_signers
  unfold MultiSig.new
  rw [dif_neg hmessage, dif_pos htwo, hnative]
  rfl

theorem publicKey_injective : Function.Injective publicKey := by decide +kernel

end Recorded

open Recorded in
theorem signatures_agree_of_two :
    ∃ x signature signature',
      (schedule 0 1).foldlM (Configuration.perform (signing Crates.Sample.crates multiSig publicKey))
        (Parties.start start) = some x ∧
      (x.state 0).signature = some signature ∧ (x.state 1).signature = some signature' ∧
      signature = signature' ∧
      ((x.state 0).verify none).toOption = ((x.state 1).verify none).toOption := by
  have hany : (((schedule 0 1).foldlM
      (Configuration.perform (signing Crates.Sample.crates multiSig publicKey))
      (Parties.start start)).any fun x =>
        (x.state 0).signature.isSome && (x.state 1).signature.isSome) = true := by decide +kernel
  obtain ⟨x, hx, hboth⟩ := (Option.any_eq_true ..).mp hany
  rw [Bool.and_eq_true, Option.isSome_iff_exists, Option.isSome_iff_exists] at hboth
  obtain ⟨⟨signature, hsignature⟩, signature', hsignature'⟩ := hboth
  have hreachable : Reachable (signing Crates.Sample.crates multiSig publicKey) true start x :=
    Reachable.schedule (schedule 0 1) .start hx
  exact ⟨x, signature, signature', hx, hsignature, hsignature',
    signatures_agree record_laws publicKey_injective joined hreachable hsignature hsignature'⟩

end ThalerNodelib.MultiSig
