import ThalerNodelib.MultiSigProtocol

/-!
The rounds of the signers against each other. A gate of a session counts values;
among signers whose packets the network does not repeat, the count is reached
exactly when every co-signer's own value is there, so no signer begins a round
before all the others have ended the one before.
-/
namespace ThalerNodelib.MultiSig

open Js Native KeyPairs Runs Parties

variable {native : NativeModule} {K : Type} {n : ℕ} {key : Buffer → K} {party : Fin n → K}
variable {s₀ : Fin n → Session native} {x : Signers native K n}

/-- The signers' sessions, each created for the same number of signers. -/
structure Created (message : String) (keyPair : Fin n → KeyPair native)
    (signerPublicKeys : Fin n → List Buffer) (s₀ : Fin n → Session native) : Prop where
  new : ∀ i, MultiSig.new native message (keyPair i) (signerPublicKeys i) = .ok (s₀ i)
  count : ∀ i, (signerPublicKeys i).length = n

/-- Different signers other than `i` are all the others when their number is right. -/
theorem senders_cover {senders : List (Fin n)} {i : Fin n} (hnodup : senders.Nodup)
    (hi : i ∉ senders) : senders.length = n - 1 ↔ ∀ j, j ≠ i → j ∈ senders := by
  have hcons : (i :: senders).Nodup := List.nodup_cons.mpr ⟨hi, hnodup⟩
  have hn : 0 < n := i.pos
  constructor
  · intro hlen j hj
    have hcard : (i :: senders).toFinset.card = Fintype.card (Fin n) := by
      rw [List.toFinset_card_of_nodup hcons, Fintype.card_fin, List.length_cons]
      omega
    have hmem : j ∈ (i :: senders).toFinset := by
      rw [Finset.eq_univ_of_card _ hcard]
      exact Finset.mem_univ j
    rcases List.mem_cons.mp (List.mem_toFinset.mp hmem) with heq | hmem
    · exact absurd heq hj
    · exact hmem
  · intro hall
    have hperm : (i :: senders).Perm (List.finRange n) := by
      apply List.perm_of_nodup_nodup_toFinset_eq hcons (List.nodup_finRange n)
      ext j
      by_cases hj : j = i
      · simp [hj]
      · simp [hall j hj]
    have hlen := hperm.length_eq
    rw [List.length_cons, List.length_finRange] at hlen
    omega

theorem senders_length {senders : List (Fin n)} {i : Fin n} (hnodup : senders.Nodup)
    (hi : i ∉ senders) : senders.length ≤ n - 1 := by
  have hcons : (i :: senders).Nodup := List.nodup_cons.mpr ⟨hi, hnodup⟩
  have hle := hcons.length_le_card
  rw [List.length_cons, Fintype.card_fin] at hle
  omega

section
variable {message : String} {keyPair : Fin n → KeyPair native}
  {signerPublicKeys : Fin n → List Buffer}

theorem Created.cached (hnew : Created message keyPair signerPublicKeys s₀)
    {copies : Bool} (h : Reachable (protocol native key party) copies s₀ x) (i : Fin n)
    (phase : Phase) : (x.state i).cached phase = (additions phase (x.log i)).map Prod.snd := by
  rw [((Refines.start (hnew.new i)).run (h.run i)).cached phase, accepted_added]

theorem Created.gate (hnew : Created message keyPair signerPublicKeys s₀) {i : Fin n}
    {s : Session native} {log : List (Event native)}
    (run : Run (machine native) (s₀ i) log s) (phase : Phase) :
    s.hasCollectedAll phase = true ↔ (additions phase log).length = n - 1 := by
  rw [(Fixed.run (hnew.new i) run).gate phase, MultiSigSession.totalExternalCoSigners,
    (new_eq_ok (hnew.new i)).2.1, hnew.count i]

/-- The values that a session holds of a phase have their senders, and the gate is
open exactly when these are all the others. -/
theorem Created.senders (hnew : Created message keyPair signerPublicKeys s₀)
    (hparty : Function.Injective party)
    (h : Reachable (protocol native key party) false s₀ x) (i : Fin n) (phase : Phase) :
    ∃ senders : List (Fin n), senders.Nodup ∧ i ∉ senders ∧
      List.Forall₂ (CameFrom key party x phase) senders (additions phase (x.log i)) ∧
      ((x.state i).hasCollectedAll phase = true ↔ ∀ j, j ≠ i → j ∈ senders) := by
  obtain ⟨senders, hnodup, hi, hfrom⟩ := exists_senders hparty h i phase
  refine ⟨senders, hnodup, hi, hfrom, ?_⟩
  rw [hnew.gate (h.run i) phase, ← hfrom.length_eq]
  exact senders_cover hnodup hi

/-- Behind an open gate is a value of every other signer. -/
theorem Created.held (hnew : Created message keyPair signerPublicKeys s₀)
    (hparty : Function.Injective party)
    (h : Reachable (protocol native key party) false s₀ x) {i : Fin n} {phase : Phase}
    (hopen : (x.state i).hasCollectedAll phase = true) {j : Fin n} (hj : j ≠ i) :
    ∃ addition ∈ additions phase (x.log i), CameFrom key party x phase j addition := by
  obtain ⟨senders, -, -, hfrom, hiff⟩ := hnew.senders hparty h i phase
  obtain ⟨k, hk, heq⟩ := List.getElem_of_mem (hiff.mp hopen j hj)
  have hk' : k < (additions phase (x.log i)).length := by rwa [← hfrom.length_eq]
  refine ⟨(additions phase (x.log i))[k], List.getElem_mem hk', ?_⟩
  rw [← heq]
  exact hfrom.get hk hk'

/-- Whatever the native functions do and however the packets are delayed,
reordered or lost: the values that a session holds of a phase came from
different other signers, each the value that this signer generated, added under
its key; and the gate of the phase is open exactly when all of them came. -/
theorem gate_exchange (hnew : Created message keyPair signerPublicKeys s₀)
    (hparty : Function.Injective party)
    (h : Reachable (protocol native key party) false s₀ x) (i : Fin n) (phase : Phase) :
    (x.state i).cached phase = (additions phase (x.log i)).map Prod.snd ∧
      ∃ senders : List (Fin n), senders.Nodup ∧ i ∉ senders ∧
        List.Forall₂ (CameFrom key party x phase) senders (additions phase (x.log i)) ∧
        ((x.state i).hasCollectedAll phase = true ↔ ∀ j, j ≠ i → j ∈ senders) :=
  ⟨hnew.cached h i phase, hnew.senders hparty h i phase⟩

/-- No more values of a phase are held than there are co-signers. -/
theorem additions_length (hparty : Function.Injective party)
    (h : Reachable (protocol native key party) false s₀ x) (i : Fin n) (phase : Phase) :
    (additions phase (x.log i)).length ≤ n - 1 := by
  obtain ⟨senders, hnodup, hi, hfrom⟩ := exists_senders hparty h i phase
  rw [← hfrom.length_eq]
  exact senders_length hnodup hi

/-- A gate that let a call through is open for good. -/
theorem gate_stays (hnew : Created message keyPair signerPublicKeys s₀)
    (hparty : Function.Injective party)
    (h : Reachable (protocol native key party) false s₀ x) {i : Fin n} {e : Event native}
    (he : e ∈ x.log i) (hok : e.succeeded = true) {phase : Phase}
    (hgate : e.call.gate = some phase) : (x.state i).hasCollectedAll phase = true := by
  obtain ⟨older, hsuffix, hrun, heq⟩ := (h.run i).mem_entry he
  have hopen : e.before.hasCollectedAll phase = true := by
    rw [heq] at hok
    obtain ⟨v, hv⟩ := (Entry.succeeded_iff _).mp hok
    exact (step_of_ok hv).gate_open hgate
  rw [hnew.gate (h.run i) phase]
  rw [hnew.gate hrun phase] at hopen
  have hprefix := (additions_suffix ((List.suffix_cons _ _).trans hsuffix) phase).length_le
  have hle := additions_length hparty h i phase
  omega

/-- A generated value was returned by a successful call. -/
theorem exists_generated (hnew : Created message keyPair signerPublicKeys s₀)
    {copies : Bool} (h : Reachable (protocol native key party) copies s₀ x) {i : Fin n}
    {phase : Phase} (hvalue : (x.state i).generated phase ≠ none) :
    ∃ e ∈ x.log i, e.succeeded = true ∧ e.call = phase.generateCall := by
  rw [((Refines.start (hnew.new i)).run (h.run i)).generated phase, lastGenerated] at hvalue
  obtain ⟨value, hsome⟩ := Option.ne_none_iff_exists'.mp hvalue
  obtain ⟨e, he, hfound⟩ := List.exists_of_findSome?_eq_some hsome
  split at hfound
  · rename_i hboth
    exact ⟨e, he, hboth⟩
  · cases hfound

/-- Rounds: a call that waits for a phase succeeds only after every co-signer has
generated its value of that phase and the session holds it, and after the session
itself has generated its value of the phase before that one. -/
theorem lockstep (hnew : Created message keyPair signerPublicKeys s₀)
    (hparty : Function.Injective party)
    (h : Reachable (protocol native key party) false s₀ x) {i : Fin n} {e : Event native}
    (he : e ∈ x.log i) (hok : e.succeeded = true) {phase : Phase}
    (hgate : e.call.gate = some phase) :
    (∀ j, j ≠ i → ∃ addition ∈ additions phase (x.log i), CameFrom key party x phase j addition) ∧
      ∀ earlier, phase.generateCall.gate = some earlier →
        (x.state i).generated earlier ≠ none := by
  have hheld : ∀ (i : Fin n) (e : Event native), e ∈ x.log i → e.succeeded = true →
      ∀ phase, e.call.gate = some phase →
        ∀ j, j ≠ i → ∃ addition ∈ additions phase (x.log i),
          CameFrom key party x phase j addition := by
    intro i e he hok phase hgate j hj
    exact hnew.held hparty h (gate_stays hnew hparty h he hok hgate) hj
  refine ⟨hheld i e he hok phase hgate, ?_⟩
  intro earlier hearlier
  -- Another signer's value of this phase needed this signer's value of the earlier one.
  have htwo := (s₀ i).two_signers
  rw [(new_eq_ok (hnew.new i)).2.1, hnew.count i] at htwo
  obtain ⟨j, hj⟩ : ∃ j : Fin n, j ≠ i := by
    have : Nontrivial (Fin n) := Fin.nontrivial_iff_two_le.mpr htwo
    exact exists_ne i
  obtain ⟨addition, -, -, hvalue⟩ := hheld i e he hok phase hgate j hj
  obtain ⟨e', he', hok', hcall⟩ := @exists_generated _ _ _ _ _ _ _ _ _ _ hnew _ h j phase
    (by rw [hvalue]; simp)
  obtain ⟨own, -, -, hown⟩ := hheld j e' he' hok' earlier (by rwa [hcall]) i hj.symm
  rw [hown]
  simp

/-- A signer sent each value that it generated to all the others. -/
theorem generated_sent (hnew : Created message keyPair signerPublicKeys s₀) {copies : Bool}
    (h : Reachable (protocol native key party) copies s₀ x) {i j : Fin n} (hij : i ≠ j)
    {phase : Phase} {value : Buffer} (hvalue : (x.state j).generated phase = some value) :
    (i, ⟨phase, party j, value⟩) ∈ x.sent := by
  refine h.invariant (fun x => ∀ i j, i ≠ j → ∀ phase value,
    (x.state j).generated phase = some value → (i, ⟨phase, party j, value⟩) ∈ x.sent)
    ?_ ?_ i j hij phase value hvalue
  · intro i j _ phase value hvalue
    change (s₀ j).generated phase = some value at hvalue
    rw [((new_eq_ok (hnew.new j)).2.2.2 phase).2] at hvalue
    cases hvalue
  · intro x y _ ih hs i j hij phase value hvalue
    cases hs with
    | lose packet before after _ => exact ih i j hij phase value hvalue
    | copy packet _ _ => exact ih i j hij phase value hvalue
    | deliver k p c before after _ hcontent =>
      change ((x.make (protocol native key party) k c).state j).generated phase = some value at hvalue
      rw [Configuration.make_state] at hvalue
      split at hvalue
      · rename_i hj
        change (next (machine native) (x.state k) c).generated phase = some value at hvalue
        rw [next_generated (packet_generates hcontent), ← hj] at hvalue
        exact ih i j hij phase value hvalue
      · exact ih i j hij phase value hvalue
    | act k c hown =>
      apply List.mem_append.mpr
      change ((x.make (protocol native key party) k c).state j).generated phase = some value at hvalue
      rw [Configuration.make_state] at hvalue
      by_cases hj : j = k
      · rw [if_pos hj] at hvalue
        change (next (machine native) (x.state k) c).generated phase = some value at hvalue
        by_cases hc : c = phase.generateCall
        · right
          subst hc
          change _ ∈ (protocol native key party).posted k phase.generateCall
            (outcome (machine native) (x.state k) phase.generateCall)
          rw [posted_generated k (OwnCall.ungenerated hown rfl) hvalue, hj]
          exact List.mem_map.mpr ⟨i, mem_others.mpr (hj ▸ hij), rfl⟩
        · left
          rw [next_generated hc, ← hj] at hvalue
          exact ih i j hij phase value hvalue
      · rw [if_neg hj] at hvalue
        exact Or.inl (ih i j hij phase value hvalue)

/-- A round that all signers have ended, and whose packets were all received,
opens its gate everywhere. -/
theorem round_opens (hnew : Created message keyPair signerPublicKeys s₀)
    (hparty : Function.Injective party)
    (h : Reachable (protocol native key party) false s₀ x)
    (hdelivered : ∀ i p, (i, p) ∈ x.sent → p ∈ x.received (protocol native key party) i)
    {phase : Phase} (hround : ∀ j, (x.state j).generated phase ≠ none) (i : Fin n) :
    (x.state i).hasCollectedAll phase = true := by
  obtain ⟨senders, -, -, hfrom, hopen⟩ := hnew.senders hparty h i phase
  rw [hopen]
  intro j hj
  obtain ⟨value, hvalue⟩ := Option.ne_none_iff_exists'.mp (hround j)
  have hreceived := hdelivered i _ (generated_sent hnew h hj.symm hvalue)
  have hmem : (⟨phase, party j, value⟩ : Packet K) ∈
      (additions phase (x.log i)).filterMap (packetOf key phase) := by
    rw [← received_filter party, List.mem_filter]
    exact ⟨hreceived, by simp⟩
  have hsigner : party j ∈
      ((additions phase (x.log i)).filterMap (packetOf key phase)).map Packet.signer :=
    List.mem_map.mpr ⟨_, hmem, rfl⟩
  rw [CameFrom.packets hfrom] at hsigner
  obtain ⟨k, hk, heq⟩ := List.mem_map.mp hsigner
  rwa [← hparty heq]

/-- While a signature is missing and nothing is under way, some signer lacks a value
or a signature and its session lets the call through to the native module. -/
theorem no_deadlock (hnew : Created message keyPair signerPublicKeys s₀)
    (hparty : Function.Injective party)
    (h : Reachable (protocol native key party) false s₀ x)
    (hdelivered : ∀ i p, (i, p) ∈ x.sent → p ∈ x.received (protocol native key party) i)
    {i : Fin n} (hmissing : (x.state i).signature = none) :
    ∃ j c, outcome (machine native) (x.state j) c = nativeAnswer (x.state j) c ∧
      ((∃ phase, c = phase.generateCall ∧ (x.state j).generated phase = none) ∨
        (c = .sign ∧ (x.state j).signature = none)) := by
  have hgenerate : ∀ phase : Phase, (∀ before, phase.generateCall.gate = some before →
      ∀ j, (x.state j).generated before ≠ none) →
      (∃ j, (x.state j).generated phase = none) → ∃ j c,
        outcome (machine native) (x.state j) c = nativeAnswer (x.state j) c ∧
          ((∃ phase, c = phase.generateCall ∧ (x.state j).generated phase = none) ∨
            (c = .sign ∧ (x.state j).signature = none)) := by
    intro phase hbefore hlacks
    obtain ⟨j, hj⟩ := hlacks
    refine ⟨j, phase.generateCall, generate_outcome _ _ ?_, Or.inl ⟨phase, rfl, hj⟩⟩
    intro before hgate
    exact round_opens hnew hparty h hdelivered (hbefore before hgate) j
  by_cases hcommitment : ∃ j, (x.state j).generated .nonceCommitment = none
  · exact hgenerate .nonceCommitment (fun before hgate => by cases hgate) hcommitment
  · by_cases hnonce : ∃ j, (x.state j).generated .nonce = none
    · refine hgenerate .nonce ?_ hnonce
      intro before hgate
      obtain rfl := Option.some.inj hgate
      exact fun j hj => hcommitment ⟨j, hj⟩
    · by_cases hpartial : ∃ j, (x.state j).generated .partialSignature = none
      · refine hgenerate .partialSignature ?_ hpartial
        intro before hgate
        obtain rfl := Option.some.inj hgate
        exact fun j hj => hnonce ⟨j, hj⟩
      · have hopen := round_opens hnew hparty h hdelivered
          (fun j hj => hpartial ⟨j, hj⟩) i
        exact ⟨i, .sign, sign_outcome _ hopen, Or.inr ⟨rfl, hmissing⟩⟩

end

/-! Two signers over the native module that keeps a record of three bytes for each key. -/
namespace Sample

def signer (i : Fin 2) : Buffer := [4, 7 + UInt8.ofNat i.val]

def signerKeyPair (i : Fin 2) : KeyPair Sample.module :=
  ⟨some (signer i), some [2, 7 + UInt8.ofNat i.val], some [7 + UInt8.ofNat i.val],
    .privateKey rfl rfl⟩

def pair (i : Fin 2) : Session Sample.module :=
  { Sample.start with
    keyPair := signerKeyPair i
    signerPublicKeys := [signer 0, signer 1]
    two_signers := by decide
    session := [4, 7, 0, 0, 0, 4, 8, 0, 0, 0] }

theorem created_pair :
    Created "message" signerKeyPair (fun _ => [signer 0, signer 1]) pair :=
  ⟨fun _ => rfl, fun _ => rfl⟩

theorem signer_injective : Function.Injective signer := by decide

def arrive (phase : Phase) (ref : ℕ) (i : Fin 2) (value : UInt8) : Action (Fin 2) Call :=
  .deliver i (phase.addCall (some ⟨ref, [4, 8 - UInt8.ofNat i.val]⟩) (some ⟨ref + 1, [value]⟩))

/-- The first signer is through its second phase while the other waits for a nonce. -/
def ahead : List (Action (Fin 2) Call) :=
  [.act 0 .generateNonceCommitment, .act 1 .generateNonceCommitment,
    arrive .nonceCommitment 0 1 1, .act 1 .generateNonce, arrive .nonceCommitment 0 0 1,
    .act 0 .generateNonce, arrive .nonce 2 0 2, .act 0 .partialSign]

/-- Both signers have a commitment and the packets have come. -/
def committed : List (Action (Fin 2) Call) :=
  [.act 0 .generateNonceCommitment, .act 1 .generateNonceCommitment,
    arrive .nonceCommitment 0 1 1, arrive .nonceCommitment 0 0 1]

def run (actions : List (Action (Fin 2) Call)) : Option (Signers Sample.module Buffer 2) :=
  actions.foldlM (Configuration.perform (protocol Sample.module id signer)) (Parties.start pair)

theorem run_reachable {actions : List (Action (Fin 2) Call)} {x : Signers Sample.module Buffer 2}
    (h : run actions = some x) : Reachable (protocol Sample.module id signer) false pair x :=
  Reachable.schedule actions .start h

end Sample

/-- The first signer has the other's nonce; the gate of the partial signatures is shut. -/
theorem gate_exchange_ahead :
    ∃ x, Sample.run Sample.ahead = some x ∧ (x.state 0).hasCollectedAll .nonce = true ∧
      (x.state 0).cached .nonce = (additions .nonce (x.log 0)).map Prod.snd ∧
      ∃ senders : List (Fin 2), senders.Nodup ∧ 0 ∉ senders ∧
        List.Forall₂ (CameFrom id Sample.signer x .nonce) senders (additions .nonce (x.log 0)) ∧
        ((x.state 0).hasCollectedAll .nonce = true ↔ ∀ j, j ≠ 0 → j ∈ senders) := by
  have hany : ((Sample.run Sample.ahead).any fun x =>
      (x.state 0).hasCollectedAll .nonce) = true := by decide +kernel
  obtain ⟨x, hx, hopen⟩ := (Option.any_eq_true ..).mp hany
  exact ⟨x, hx, hopen,
    gate_exchange Sample.created_pair Sample.signer_injective (Sample.run_reachable hx) 0 .nonce⟩

theorem lockstep_ahead :
    ∃ x, Sample.run Sample.ahead = some x ∧
      (∀ j, j ≠ 0 → ∃ addition ∈ additions .nonce (x.log 0),
        CameFrom id Sample.signer x .nonce j addition) ∧
      ∀ earlier, Phase.nonce.generateCall.gate = some earlier →
        (x.state 0).generated earlier ≠ none := by
  have hany : ((Sample.run Sample.ahead).any fun x => (x.log 0).any fun e =>
      e.succeeded && e.call = .partialSign) = true := by decide +kernel
  obtain ⟨x, hx, hlog⟩ := (Option.any_eq_true ..).mp hany
  obtain ⟨e, he, hboth⟩ := List.any_eq_true.mp hlog
  rw [Bool.and_eq_true, decide_eq_true_eq] at hboth
  exact ⟨x, hx, lockstep Sample.created_pair Sample.signer_injective (Sample.run_reachable hx) he
    hboth.1 (by rw [hboth.2]; rfl)⟩

theorem no_deadlock_committed :
    ∃ x, Sample.run Sample.committed = some x ∧ x.flight = [] ∧
      ∃ j c, outcome (machine Sample.module) (x.state j) c = nativeAnswer (x.state j) c ∧
        ((∃ phase, c = phase.generateCall ∧ (x.state j).generated phase = none) ∨
          (c = .sign ∧ (x.state j).signature = none)) := by
  have hany : ((Sample.run Sample.committed).any fun x => x.flight.isEmpty &&
      (x.state 0).signature.isNone && x.sent.all fun packet =>
        packet.2 ∈ x.received (protocol Sample.module id Sample.signer) packet.1) = true := by
    decide +kernel
  obtain ⟨x, hx, hall⟩ := (Option.any_eq_true ..).mp hany
  simp only [Bool.and_eq_true, List.isEmpty_iff, Option.isNone_iff_eq_none, List.all_eq_true,
    decide_eq_true_eq] at hall
  obtain ⟨⟨hflight, hmissing⟩, hdelivered⟩ := hall
  exact ⟨x, hx, hflight, no_deadlock Sample.created_pair Sample.signer_injective
    (Sample.run_reachable hx) (fun i p hmem => hdelivered (i, p) hmem) hmissing⟩

end ThalerNodelib.MultiSig
