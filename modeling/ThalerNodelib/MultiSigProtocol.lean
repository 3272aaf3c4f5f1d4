import Mathlib.Data.Fintype.Card
import Mathlib.Data.List.FinRange
import ThalerNodelib.MultiSigGates
import ThalerNodelib.Parties

/-!
Signers who sign together: each holds a session, generates its value of a phase
once and passes it to the others, and hands what arrives to its session under
the sender's public key. Whatever the native functions do and in whatever order
the values arrive, a gate opens exactly when a value of every other signer came.
-/
namespace ThalerNodelib.MultiSig

open Js Native KeyPairs Runs Parties

variable {native : NativeModule} {K : Type}

/-- A value that a signer passes to its co-signers. -/
structure Packet (K : Type) where
  phase : Phase
  signer : K
  value : Buffer
  deriving DecidableEq

/-- The packet that a call hands to a session. -/
def Call.packet (key : Buffer → K) (c : Call) : Option (Packet K) :=
  match c with
  | .addNonceCommitment (some publicKey) (some value) =>
    some ⟨.nonceCommitment, key publicKey.bytes, value.bytes⟩
  | .addNonce (some publicKey) (some value) => some ⟨.nonce, key publicKey.bytes, value.bytes⟩
  | .addPartialSignature (some publicKey) (some value) =>
    some ⟨.partialSignature, key publicKey.bytes, value.bytes⟩
  | _ => none

variable {n : ℕ}

def others (i : Fin n) : List (Fin n) := (List.finRange n).filter fun j => j ≠ i

theorem mem_others {i j : Fin n} : j ∈ others i ↔ j ≠ i := by simp [others]

theorem others_nodup (i : Fin n) : (others i).Nodup := (List.nodup_finRange n).filter _

/-- A signer's own calls: it reads, signs, or generates a value that it does not have. -/
def OwnCall (s : Session native) (c : Call) : Prop :=
  c.isRead = true ∨ c = .sign ∨ ∃ phase : Phase, c = phase.generateCall ∧ s.generated phase = none

instance (s : Session native) (c : Call) : Decidable (OwnCall s c) :=
  decidable_of_iff (c.isRead = true ∨ c = .sign ∨
      (c.generates.any fun phase => (s.generated phase).isNone) = true) (by
      unfold OwnCall
      cases hgenerates : c.generates with
      | none =>
        have hnone : ∀ phase : Phase, c ≠ phase.generateCall := by
          intro phase hc
          rw [generates_eq_some.mpr hc] at hgenerates
          cases hgenerates
        simp [hnone]
      | some phase =>
        obtain rfl := generates_eq_some.mp hgenerates
        have hphase : ∀ kind : Phase, phase.generateCall = kind.generateCall ↔ kind = phase := by
          intro kind
          cases phase <;> cases kind <;> simp [Phase.generateCall]
        simp [hphase])

variable (native) in
/-- The signers with their public keys; a value generated goes to all the others. -/
def protocol (key : Buffer → K) (party : Fin n → K) :
    Protocol (Fin n) JsError (Session native) Call Value (Packet K) where
  machine := machine native
  own _ s c := OwnCall s c
  content := Call.packet key
  own_content := by
    intro _ s c h
    rcases h with hread | rfl | ⟨phase, rfl, -⟩
    · cases c <;> first | rfl | cases hread
    · rfl
    · cases phase <;> rfl
  sends i c v :=
    match c.generates, v with
    | some phase, .buffer value => (others i).map fun j => (j, ⟨phase, party i, value⟩)
    | _, _ => []

instance (key : Buffer → K) (party : Fin n → K) (i : Fin n) (s : Session native) (c : Call) :
    Decidable ((protocol native key party).own i s c) := inferInstanceAs (Decidable (OwnCall s c))

theorem next_generated {s : Session native} {c : Call} {phase : Phase}
    (h : c ≠ phase.generateCall) :
    (next (machine native) s c).generated phase = s.generated phase := by
  cases hout : outcome (machine native) s c with
  | error e => rw [throw_keeps hout]
  | ok v => rw [(step_of_ok hout).generated_eq phase, if_neg h]

/-- A value that was generated is the value returned. -/
theorem Step.generates {s t : Session native} {c : Call} {v : Value} {phase : Phase}
    (h : Step native s c v t) (hc : c = phase.generateCall) :
    ∃ value, v = .buffer value ∧ t.generated phase = some value := by
  have hgenerated := h.generated_eq phase
  rw [if_pos hc] at hgenerated
  cases h with
  | read _ _ hread =>
    rw [hc] at hread
    cases phase <;> cases hread
  | generated kind value session _ hnative =>
    have hphase : kind = phase := by
      cases kind <;> cases phase <;> first | rfl | cases hc
    subst hphase
    rw [hnative] at hgenerated
    exact ⟨value, rfl, hgenerated⟩
  | added kind publicKey value session _ _ => cases kind <;> cases phase <;> cases hc
  | signed signature _ _ => cases phase <;> cases hc

theorem OwnCall.ungenerated {s : Session native} {c : Call} {phase : Phase} (h : OwnCall s c)
    (hc : c = phase.generateCall) : s.generated phase = none := by
  rcases h with hread | hsign | ⟨kind, hkind, hnone⟩
  · rw [hc] at hread
    cases phase <;> cases hread
  · rw [hc] at hsign
    cases phase <;> cases hsign
  · rw [hc] at hkind
    have hphase : kind = phase := by
      cases kind <;> cases phase <;> first | rfl | cases hkind
    rwa [← hphase]

theorem packet_generates {key : Buffer → K} {c : Call} {p : Packet K} {phase : Phase}
    (h : c.packet key = some p) : c ≠ phase.generateCall := by
  rintro rfl
  cases phase <;> cases h

variable {key : Buffer → K} {party : Fin n → K}

abbrev Signers (native : NativeModule) (K : Type) (n : ℕ) :=
  Configuration (Fin n) JsError (Session native) Call Value (Packet K)

variable {copies : Bool} {s₀ : Fin n → Session native} {x y : Signers native K n}

/-- A value once generated stays. -/
theorem generated_stays (h : Parties.Step (protocol native key party) copies x y) {j : Fin n}
    {phase : Phase} {value : Buffer} (hvalue : (x.state j).generated phase = some value) :
    (y.state j).generated phase = some value := by
  rcases h.parties with ⟨-, hstate⟩ | ⟨i, c, hcall, -, hstate⟩
  · rwa [hstate]
  · rw [hstate, Configuration.make_state]
    by_cases hj : j = i
    · rw [if_pos hj]
      have hne : c ≠ phase.generateCall := by
        rcases hcall with hown | ⟨p, -, hcontent⟩
        · intro hc
          have hnone := OwnCall.ungenerated hown hc
          rw [← hj, hvalue] at hnone
          cases hnone
        · exact packet_generates hcontent
      change (next (machine native) (x.state i) c).generated phase = some value
      rw [next_generated hne, ← hj, hvalue]
    · rwa [if_neg hj]

/-- What a call's value is sent in: nothing, or one packet for each other signer. -/
theorem posted_eq (key : Buffer → K) (party : Fin n → K) (i : Fin n) (s : Session native) (c : Call) :
    (protocol native key party).posted i c (outcome (machine native) s c) = [] ∨
      ∃ phase value, c = phase.generateCall ∧
        (next (machine native) s c).generated phase = some value ∧
        (protocol native key party).posted i c (outcome (machine native) s c) =
          (others i).map fun j => (j, ⟨phase, party i, value⟩) := by
  cases hout : outcome (machine native) s c with
  | error e => exact Or.inl rfl
  | ok v =>
    cases hgenerates : c.generates with
    | none =>
      left
      simp [Protocol.posted, protocol, hgenerates]
    | some phase =>
      obtain ⟨value, rfl, hvalue⟩ :=
        (step_of_ok hout).generates (generates_eq_some.mp hgenerates)
      refine Or.inr ⟨phase, value, generates_eq_some.mp hgenerates, hvalue, ?_⟩
      simp [Protocol.posted, protocol, hgenerates]

/-- A value that came of a call is sent to all the others. -/
theorem posted_generated (i : Fin n) {s : Session native} {phase : Phase} {value : Buffer}
    (hnone : s.generated phase = none)
    (hvalue : (next (machine native) s phase.generateCall).generated phase = some value) :
    (protocol native key party).posted i phase.generateCall
        (outcome (machine native) s phase.generateCall) =
      (others i).map fun j => (j, ⟨phase, party i, value⟩) := by
  cases hout : outcome (machine native) s phase.generateCall with
  | error e =>
    rw [throw_keeps hout, hnone] at hvalue
    cases hvalue
  | ok v =>
    obtain ⟨w, rfl, hw⟩ := (step_of_ok hout).generates rfl
    rw [hvalue] at hw
    obtain rfl := Option.some.inj hw
    simp [Protocol.posted, protocol, generates_eq_some.mpr rfl]

/-- Each signer sent each other one value of a phase, the one that it generated. -/
structure Posted (party : Fin n → K) (state : Fin n → Session native)
    (sent : List (Fin n × Packet K)) : Prop where
  generated : ∀ i p, (i, p) ∈ sent → ∃ j, j ≠ i ∧ p.signer = party j ∧
    (state j).generated p.phase = some p.value
  once : (sent.map fun packet => (packet.1, packet.2.phase, packet.2.signer)).Nodup

theorem Posted.mono {state later : Fin n → Session native} {sent : List (Fin n × Packet K)}
    (h : Posted party state sent)
    (hstays : ∀ j phase value, (state j).generated phase = some value →
      (later j).generated phase = some value) : Posted party later sent := by
  refine ⟨?_, h.once⟩
  intro i p hmem
  obtain ⟨j, hj, hsigner, hvalue⟩ := h.generated i p hmem
  exact ⟨j, hj, hsigner, hstays _ _ _ hvalue⟩

/-- A signer sends a value that it did not have before. -/
theorem Posted.post (hparty : Function.Injective party) {state later : Fin n → Session native}
    {sent : List (Fin n × Packet K)} {i : Fin n} {phase : Phase} {value : Buffer}
    (h : Posted party state sent) (hlater : Posted party later sent)
    (hnone : (state i).generated phase = none) (hvalue : (later i).generated phase = some value) :
    Posted party later (sent ++ (others i).map fun j => (j, ⟨phase, party i, value⟩)) := by
  constructor
  · intro j p hmem
    rcases List.mem_append.mp hmem with hmem | hmem
    · exact hlater.generated j p hmem
    · obtain ⟨k, hk, heq⟩ := List.mem_map.mp hmem
      obtain ⟨rfl, rfl⟩ := Prod.mk.inj heq
      exact ⟨i, (mem_others.mp hk).symm, rfl, hvalue⟩
  · rw [List.map_append, List.nodup_append]
    refine ⟨h.once, ?_, ?_⟩
    · rw [List.map_map]
      apply (others_nodup i).map
      intro a b hab
      exact (Prod.mk.inj hab).1
    · -- An older packet of this phase from this signer would mean that it had the value.
      rintro label hold _ hnew rfl
      obtain ⟨⟨j, p⟩, hmem, rfl⟩ := List.mem_map.mp hold
      obtain ⟨packet, hpacket, hlabel⟩ := List.mem_map.mp hnew
      obtain ⟨k, -, rfl⟩ := List.mem_map.mp hpacket
      simp only [Prod.mk.injEq] at hlabel
      obtain ⟨-, hphase, hsigner⟩ := hlabel
      obtain ⟨m, -, hm, hgenerated⟩ := h.generated j p hmem
      obtain rfl : i = m := hparty (hsigner.trans hm)
      rw [← hphase, hnone] at hgenerated
      cases hgenerated

theorem Posted.reachable (hparty : Function.Injective party)
    (h : Reachable (protocol native key party) copies s₀ x) : Posted party x.state x.sent := by
  refine h.invariant (fun x => Posted party x.state x.sent) ?_ ?_
  · refine ⟨?_, List.nodup_nil⟩
    intro i p hmem
    cases hmem
  · intro x y _ ih hs
    have hlater : Posted party y.state x.sent :=
      ih.mono fun j phase value hvalue => generated_stays hs hvalue
    cases hs with
    | deliver i p c before after _ _ => exact hlater
    | lose packet before after _ => exact hlater
    | copy packet _ _ => exact hlater
    | act i c hown =>
      rcases posted_eq key party i (x.state i) c with
        hnothing | ⟨phase, value, hc, hvalue, hposted⟩
      · have hsent := List.append_nil x.sent
        rw [← hnothing] at hsent
        rw [← hsent] at hlater
        exact hlater
      · have hstate : ((x.make (protocol native key party) i c).state i).generated phase =
            some value := by
          rw [Configuration.make_state, if_pos rfl]
          exact hvalue
        have hpost := ih.post hparty hlater (OwnCall.ungenerated hown hc) hstate
        rw [← hposted] at hpost
        exact hpost

/-- The packet that an addition took in, when its public key was a buffer. -/
def packetOf (key : Buffer → K) (phase : Phase) (addition : Argument × BufferObject) :
    Option (Packet K) :=
  addition.1.map fun publicKey => ⟨phase, key publicKey.bytes, addition.2.bytes⟩

theorem packet_filter (c : Call) (phase : Phase) :
    ((c.packet key).toList.filter fun p => p.phase = phase) =
      ((c.addition phase).bind (packetOf key phase)).toList := by
  cases c with
  | addNonceCommitment publicKey value =>
    cases publicKey <;> cases value <;> cases phase <;> rfl
  | addNonce publicKey value => cases publicKey <;> cases value <;> cases phase <;> rfl
  | addPartialSignature publicKey value =>
    cases publicKey <;> cases value <;> cases phase <;> rfl
  | _ => cases phase <;> rfl

theorem received_filter (party : Fin n → K) (x : Signers native K n) (i : Fin n) (phase : Phase) :
    ((x.received (protocol native key party) i).filter fun p => p.phase = phase) =
      (additions phase (x.log i)).filterMap (packetOf key phase) := by
  have hlog : ∀ log : List (Event native),
      ((accepted (Call.packet key) log).filter fun p => p.phase = phase) =
        (additions phase log).filterMap (packetOf key phase) := by
    intro log
    induction log with
    | nil => rfl
    | cons e log ih =>
      rw [additions, accepted_cons, accepted_cons, List.filter_append, List.filterMap_append, ih]
      cases e.succeeded with
      | false => rfl
      | true =>
        simp only [if_true]
        rw [packet_filter]
        cases e.call.addition phase with
        | none => rfl
        | some addition => simp [additions, List.filterMap_cons]; rfl
  exact hlog (x.log i)

theorem OwnCall.addition {s : Session native} {c : Call} (h : OwnCall s c) (phase : Phase) :
    c.addition phase = none := by
  rcases h with hread | rfl | ⟨kind, rfl, -⟩
  · cases c <;> cases phase <;> first | rfl | cases hread
  · cases phase <;> rfl
  · cases kind <;> cases phase <;> rfl

theorem packetOf_of_packet {c : Call} {p : Packet K} {phase : Phase}
    {addition : Argument × BufferObject} (hpacket : c.packet key = some p)
    (haddition : c.addition phase = some addition) : packetOf key phase addition = some p := by
  have hkind : ∀ kind publicKey value, p = ⟨kind, key publicKey.bytes, value.bytes⟩ →
      c = kind.addCall (some publicKey) (some value) → packetOf key phase addition = some p := by
    intro kind publicKey value hp hc
    rw [hp]
    rw [hc] at haddition
    cases kind <;> cases phase <;> cases haddition <;> rfl
  unfold Call.packet at hpacket
  split at hpacket
  · exact hkind .nonceCommitment _ _ (Option.some.inj hpacket).symm rfl
  · exact hkind .nonce _ _ (Option.some.inj hpacket).symm rfl
  · exact hkind .partialSignature _ _ (Option.some.inj hpacket).symm rfl
  · cases hpacket

/-- Each addition of a signer took in a packet that the signer received. -/
theorem addition_packet (h : Reachable (protocol native key party) copies s₀ x) {i : Fin n}
    {phase : Phase} {addition : Argument × BufferObject}
    (hmem : addition ∈ additions phase (x.log i)) :
    ∃ p ∈ x.received (protocol native key party) i,
      p.phase = phase ∧ packetOf key phase addition = some p := by
  have hpacket : ∃ p, packetOf key phase addition = some p := by
    rw [additions, accepted, List.mem_filterMap] at hmem
    obtain ⟨e, he, haddition⟩ := hmem
    rcases h.mem_log (List.mem_reverse.mp (List.mem_filter.mp he).1) with hown | ⟨p, hcontent⟩
    · rw [OwnCall.addition hown] at haddition
      cases haddition
    · exact ⟨p, packetOf_of_packet hcontent haddition⟩
  obtain ⟨p, hp⟩ := hpacket
  have hfilter : p ∈ (x.received (protocol native key party) i).filter fun p => p.phase = phase := by
    rw [received_filter party, List.mem_filterMap]
    exact ⟨addition, hmem, hp⟩
  rw [List.mem_filter, decide_eq_true_eq] at hfilter
  exact ⟨p, hfilter.1, hfilter.2, hp⟩

/-- An addition came from a signer: it names the signer's key and is the value
that the signer generated. -/
def CameFrom (key : Buffer → K) (party : Fin n → K) (x : Signers native K n) (phase : Phase)
    (j : Fin n) (addition : Argument × BufferObject) : Prop :=
  (addition.1.map fun publicKey => key publicKey.bytes) = some (party j) ∧
    (x.state j).generated phase = some addition.2.bytes

theorem addition_cameFrom (hparty : Function.Injective party)
    (h : Reachable (protocol native key party) copies s₀ x) {i : Fin n} {phase : Phase}
    {addition : Argument × BufferObject} (hmem : addition ∈ additions phase (x.log i)) :
    ∃ j, j ≠ i ∧ CameFrom key party x phase j addition := by
  obtain ⟨p, hp, hphase, hpacket⟩ := addition_packet h hmem
  obtain ⟨j, hj, hsigner, hvalue⟩ :=
    (Posted.reachable hparty h).generated i p (h.authentic.2 i p hp)
  rw [hphase] at hvalue
  refine ⟨j, hj, ?_⟩
  obtain ⟨publicKey, value⟩ := addition
  cases publicKey with
  | none => cases hpacket
  | some publicKey =>
    obtain rfl := Option.some.inj hpacket
    exact ⟨congrArg some hsigner, hvalue⟩

theorem exists_forall₂ {α β : Type} {P : α → Prop} {R : α → β → Prop} {bs : List β}
    (h : ∀ b ∈ bs, ∃ a, P a ∧ R a b) : ∃ as, (∀ a ∈ as, P a) ∧ List.Forall₂ R as bs := by
  induction bs with
  | nil => exact ⟨[], by simp, .nil⟩
  | cons b bs ih =>
    obtain ⟨a, hP, hR⟩ := h b (List.mem_cons_self ..)
    obtain ⟨as, hPs, hRs⟩ := ih fun b hb => h b (List.mem_cons_of_mem _ hb)
    exact ⟨a :: as, by simpa using ⟨hP, hPs⟩, .cons hR hRs⟩

/-- The packets that additions took in name the keys of the signers they came from. -/
theorem CameFrom.packets {phase : Phase} {senders : List (Fin n)}
    {added : List (Argument × BufferObject)}
    (h : List.Forall₂ (CameFrom key party x phase) senders added) :
    (added.filterMap (packetOf key phase)).map Packet.signer = senders.map party := by
  induction h with
  | nil => rfl
  | @cons j addition senders added hfrom _ ih =>
    obtain ⟨publicKey, value⟩ := addition
    cases publicKey with
    | none => cases hfrom.1
    | some publicKey =>
      have hkey : key publicKey.bytes = party j := Option.some.inj hfrom.1
      simp [packetOf, hkey, ← ih]

/-- The additions of a phase come from different signers, none of them the session's own. -/
theorem exists_senders (hparty : Function.Injective party)
    (h : Reachable (protocol native key party) false s₀ x) (i : Fin n) (phase : Phase) :
    ∃ senders : List (Fin n), senders.Nodup ∧ i ∉ senders ∧
      List.Forall₂ (CameFrom key party x phase) senders (additions phase (x.log i)) := by
  obtain ⟨senders, hothers, hfrom⟩ := exists_forall₂
    fun addition (hmem : addition ∈ additions phase (x.log i)) => addition_cameFrom hparty h hmem
  refine ⟨senders, ?_, fun hmem => hothers i hmem rfl, hfrom⟩
  have hnodup := h.received_nodup (fun p => (p.phase, p.signer)) (Posted.reachable hparty h).once i
  have hlabels : (((additions phase (x.log i)).filterMap (packetOf key phase)).map
      fun p => (p.phase, p.signer)).Nodup := by
    rw [← received_filter party]
    exact hnodup.sublist (List.filter_sublist.map _)
  have hphase : ∀ p ∈ (additions phase (x.log i)).filterMap (packetOf key phase),
      p.phase = phase := by
    intro p hp
    rw [← received_filter party, List.mem_filter, decide_eq_true_eq] at hp
    exact hp.2
  apply List.Nodup.of_map party
  rw [← CameFrom.packets hfrom]
  apply List.Nodup.map_on _ (List.Nodup.of_map _ hlabels)
  intro p hp q hq heq
  apply List.inj_on_of_nodup_map hlabels hp hq
  rw [hphase p hp, hphase q hq, heq]

end ThalerNodelib.MultiSig
