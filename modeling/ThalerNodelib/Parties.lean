import Mathlib.Data.List.Perm.Subperm
import Mathlib.Logic.Function.Basic
import ThalerNodelib.Runs

/-!
Parties that each run a machine of their own and send each other packets. The
network may reorder and lose packets; whether it may also deliver one twice is
a parameter. What a party does is a run of its machine, so what is known of runs
holds of each party, and what it took from the network was sent to it.
-/
namespace ThalerNodelib.Parties

open Runs

variable {ι ε σ κ ω π : Type}

/-- What the parties do: the calls that a party makes by itself, the packet that
a call hands to the machine, and the packets that a call's value is sent in. -/
structure Protocol (ι ε σ κ ω π : Type) where
  machine : Machine ε σ κ ω
  own : ι → σ → κ → Prop
  content : κ → Option π
  own_content : ∀ i s c, own i s c → content c = none
  sends : ι → κ → ω → List (ι × π)

/-- The parties with their logs, the packets under way and all that were ever
sent, each with its receiver. -/
structure Configuration (ι ε σ κ ω π : Type) where
  log : ι → Log ε σ κ ω
  state : ι → σ
  flight : List (ι × π)
  sent : List (ι × π)

namespace Configuration

/-- The packets of a list that are for one party. -/
def packetsFor [DecidableEq ι] (i : ι) (packets : List (ι × π)) : List π :=
  packets.filterMap fun packet => if packet.1 = i then some packet.2 else none

theorem packetsFor_append [DecidableEq ι] (i : ι) (xs ys : List (ι × π)) :
    packetsFor i (xs ++ ys) = packetsFor i xs ++ packetsFor i ys :=
  List.filterMap_append

theorem packetsFor_cons [DecidableEq ι] (i : ι) (packet : ι × π) (packets : List (ι × π)) :
    packetsFor i (packet :: packets) =
      (if packet.1 = i then [packet.2] else []) ++ packetsFor i packets := by
  by_cases h : packet.1 = i <;> simp [packetsFor, h]

end Configuration

variable [DecidableEq ι] (P : Protocol ι ε σ κ ω π)

/-- One party makes a call; the network stays as it is. -/
def Configuration.make (x : Configuration ι ε σ κ ω π) (i : ι) (c : κ) :
    Configuration ι ε σ κ ω π :=
  { x with
    log := Function.update x.log i (entry P.machine (x.state i) c :: x.log i)
    state := Function.update x.state i (next P.machine (x.state i) c) }

/-- The packets in which a party sends the value of its own call. -/
def Protocol.posted (i : ι) (c : κ) (result : Except ε ω) : List (ι × π) :=
  match result with
  | .ok v => P.sends i c v
  | .error _ => []

/-- Packets are put on the network. -/
def Configuration.post (x : Configuration ι ε σ κ ω π) (packets : List (ι × π)) :
    Configuration ι ε σ κ ω π :=
  { x with flight := x.flight ++ packets, sent := x.sent ++ packets }

/-- One step: of a party by itself, of a packet that arrives, or of the network. -/
inductive Step (copies : Bool) (x : Configuration ι ε σ κ ω π) :
    Configuration ι ε σ κ ω π → Prop
  | act (i : ι) (c : κ) : P.own i (x.state i) c →
      Step copies x ((x.make P i c).post (P.posted i c (outcome P.machine (x.state i) c)))
  | deliver (i : ι) (p : π) (c : κ) (before after : List (ι × π)) :
      x.flight = before ++ (i, p) :: after → P.content c = some p →
      Step copies x { x.make P i c with flight := before ++ after }
  | lose (packet : ι × π) (before after : List (ι × π)) :
      x.flight = before ++ packet :: after →
      Step copies x { x with flight := before ++ after }
  | copy (packet : ι × π) : copies = true → packet ∈ x.flight →
      Step copies x { x with flight := packet :: x.flight }

/-- What makes a step happen: a party's own call, or a call with a packet. -/
inductive Action (ι κ : Type)
  | act (i : ι) (c : κ)
  | deliver (i : ι) (c : κ)

/-- Takes the step, if the call is the party's own or its packet is under way. -/
def Configuration.perform [DecidableEq π] [∀ i s c, Decidable (P.own i s c)]
    (x : Configuration ι ε σ κ ω π) (action : Action ι κ) : Option (Configuration ι ε σ κ ω π) :=
  match action with
  | .act i c =>
    if P.own i (x.state i) c then
      some ((x.make P i c).post (P.posted i c (outcome P.machine (x.state i) c)))
    else none
  | .deliver i c =>
    match P.content c with
    | none => none
    | some p =>
      if (i, p) ∈ x.flight then some { x.make P i c with flight := x.flight.erase (i, p) }
      else none

def start (s₀ : ι → σ) : Configuration ι ε σ κ ω π where
  log := fun _ => []
  state := s₀
  flight := []
  sent := []

/-- What the parties and the network reach from the first states, in any order of steps. -/
inductive Reachable (copies : Bool) (s₀ : ι → σ) : Configuration ι ε σ κ ω π → Prop
  | start : Reachable copies s₀ (start s₀)
  | step {x y : Configuration ι ε σ κ ω π} :
      Reachable copies s₀ x → Step P copies x y → Reachable copies s₀ y

variable {P} {copies : Bool} {s₀ : ι → σ} {x y : Configuration ι ε σ κ ω π}

namespace Configuration

theorem make_log (x : Configuration ι ε σ κ ω π) (i j : ι) (c : κ) :
    (x.make P i c).log j =
      if j = i then entry P.machine (x.state i) c :: x.log i else x.log j :=
  Function.update_apply ..

theorem make_state (x : Configuration ι ε σ κ ω π) (i j : ι) (c : κ) :
    (x.make P i c).state j = if j = i then next P.machine (x.state i) c else x.state j :=
  Function.update_apply ..

end Configuration

/-- What each step did to the parties: nothing, or one of them made a call that
is its own or that hands over a packet sent to it. -/
theorem Step.parties (h : Step P copies x y) :
    (y.log = x.log ∧ y.state = x.state) ∨
      ∃ i c, (P.own i (x.state i) c ∨ ∃ p, (i, p) ∈ x.flight ∧ P.content c = some p) ∧
        y.log = (x.make P i c).log ∧ y.state = (x.make P i c).state := by
  cases h with
  | act i c hown => exact Or.inr ⟨i, c, Or.inl hown, rfl, rfl⟩
  | deliver i p c before after hflight hcontent =>
    have hmem : (i, p) ∈ x.flight := by simp [hflight]
    exact Or.inr ⟨i, c, Or.inr ⟨p, hmem, hcontent⟩, rfl, rfl⟩
  | lose packet before after _ => exact Or.inl ⟨rfl, rfl⟩
  | copy packet _ _ => exact Or.inl ⟨rfl, rfl⟩

namespace Reachable

/-- What holds at the start and survives each step holds of all that is reached. -/
theorem invariant (I : Configuration ι ε σ κ ω π → Prop) (hstart : I (Parties.start s₀))
    (hstep : ∀ x y, Reachable P copies s₀ x → I x → Step P copies x y → I y)
    (h : Reachable P copies s₀ x) : I x := by
  induction h with
  | start => exact hstart
  | step h hs ih => exact hstep _ _ h ih hs

theorem perform [DecidableEq π] [∀ i s c, Decidable (P.own i s c)] {action : Action ι κ}
    (h : Reachable P copies s₀ x) (hy : x.perform P action = some y) : Reachable P copies s₀ y := by
  refine .step h ?_
  unfold Configuration.perform at hy
  cases action with
  | act i c =>
    simp only at hy
    split at hy
    · obtain rfl := Option.some.inj hy
      exact .act i c ‹_›
    · cases hy
  | deliver i c =>
    simp only at hy
    split at hy
    · cases hy
    · rename_i p hcontent
      split at hy
      · rename_i hmem
        obtain ⟨before, after, -, hflight, herase⟩ := List.exists_erase_eq hmem
        rw [herase] at hy
        obtain rfl := Option.some.inj hy
        exact .deliver i p c before after hflight hcontent
      · cases hy

/-- The actions of a schedule, one after the other. -/
theorem schedule [DecidableEq π] [∀ i s c, Decidable (P.own i s c)] (actions : List (Action ι κ))
    (h : Reachable P copies s₀ x) (hy : actions.foldlM (Configuration.perform P) x = some y) :
    Reachable P copies s₀ y := by
  induction actions generalizing x with
  | nil =>
    obtain rfl := Option.some.inj hy
    exact h
  | cons action actions ih =>
    rw [List.foldlM_cons] at hy
    obtain ⟨z, hz, hy⟩ := Option.bind_eq_some_iff.mp hy
    exact ih (h.perform hz) hy

/-- Each party's part of what happened is a run of its machine. -/
theorem run (h : Reachable P copies s₀ x) (i : ι) :
    Run P.machine (s₀ i) (x.log i) (x.state i) := by
  refine h.invariant (fun x => ∀ i, Run P.machine (s₀ i) (x.log i) (x.state i)) ?_ ?_ i
  · intro i
    exact .start
  · intro x y _ ih hs j
    rcases hs.parties with ⟨hlog, hstate⟩ | ⟨i, c, -, hlog, hstate⟩
    · rw [hlog, hstate]
      exact ih j
    · rw [hlog, hstate, Configuration.make_log, Configuration.make_state]
      by_cases hj : j = i
      · rw [if_pos hj, if_pos hj, hj]
        exact .call c (ih i)
      · rw [if_neg hj, if_neg hj]
        exact ih j

/-- Every call of a party was its own, or handed over a packet. -/
theorem mem_log (h : Reachable P copies s₀ x) {i : ι} {e : Entry ε σ κ ω} (he : e ∈ x.log i) :
    P.own i e.before e.call ∨ ∃ p, P.content e.call = some p := by
  refine h.invariant (fun x => ∀ i, ∀ e ∈ x.log i,
    P.own i e.before e.call ∨ ∃ p, P.content e.call = some p) ?_ ?_ i e he
  · intro i e he
    cases he
  · intro x y _ ih hs j e he
    rcases hs.parties with ⟨hlog, -⟩ | ⟨i, c, hcall, hlog, -⟩
    · rw [hlog] at he
      exact ih j e he
    · rw [hlog, Configuration.make_log] at he
      by_cases hj : j = i
      · rw [if_pos hj] at he
        rcases List.mem_cons.mp he with rfl | he
        · rcases hcall with hown | ⟨p, -, hcontent⟩
          · rw [hj]
            exact Or.inl hown
          · exact Or.inr ⟨p, hcontent⟩
        · rw [hj]
          exact ih i e he
      · rw [if_neg hj] at he
        exact ih j e he

end Reachable

/-- The packets that a party took from the network and did not refuse. -/
def Configuration.received (P : Protocol ι ε σ κ ω π) (x : Configuration ι ε σ κ ω π) (i : ι) :
    List π :=
  accepted P.content (x.log i)

theorem Configuration.make_received (x : Configuration ι ε σ κ ω π) (i j : ι) (c : κ) :
    (x.make P i c).received P j =
      if j = i ∧ (entry P.machine (x.state i) c).succeeded = true
      then x.received P j ++ (P.content c).toList else x.received P j := by
  rw [Configuration.received, make_log]
  by_cases hj : j = i
  · rw [if_pos hj, accepted_cons]
    cases hok : (entry P.machine (x.state i) c).succeeded with
    | true => simp [Configuration.received, hj, entry]
    | false => simp [Configuration.received, hj]
  · simp [Configuration.received, hj]

/-- A call of a party's own takes nothing from the network. -/
theorem Protocol.own_received {i : ι} {c : κ} (hown : P.own i (x.state i) c) (j : ι) :
    (x.make P i c).received P j = x.received P j := by
  rw [Configuration.make_received, P.own_content _ _ _ hown]
  simp

namespace Reachable

/-- What is under way and what was received was sent: nothing is made up or altered. -/
theorem authentic (h : Reachable P copies s₀ x) :
    (∀ packet ∈ x.flight, packet ∈ x.sent) ∧ ∀ i, ∀ p ∈ x.received P i, (i, p) ∈ x.sent := by
  refine h.invariant (fun x => (∀ packet ∈ x.flight, packet ∈ x.sent) ∧
    ∀ i, ∀ p ∈ x.received P i, (i, p) ∈ x.sent) ?_ ?_
  · exact ⟨fun packet hmem => hmem, fun i p hmem => by cases hmem⟩
  · intro x y _ ih hs
    obtain ⟨hflight, hreceived⟩ := ih
    cases hs with
    | act i c hown =>
      constructor
      · intro packet hmem
        rcases List.mem_append.mp hmem with hmem | hmem
        · exact List.mem_append_left _ (hflight packet hmem)
        · exact List.mem_append_right _ hmem
      · intro j p hmem
        have hold : p ∈ x.received P j := by
          rw [← P.own_received hown j]
          exact hmem
        exact List.mem_append_left _ (hreceived j p hold)
    | deliver i p c before after hx hcontent =>
      constructor
      · intro packet hmem
        apply hflight
        rw [hx]
        rcases List.mem_append.mp hmem with hmem | hmem
        · exact List.mem_append_left _ hmem
        · exact List.mem_append_right _ (List.mem_cons_of_mem _ hmem)
      · intro j q hmem
        change q ∈ (x.make P i c).received P j at hmem
        rw [Configuration.make_received, hcontent] at hmem
        split at hmem
        · rename_i hj
          rcases List.mem_append.mp hmem with hmem | hmem
          · exact hreceived j q hmem
          · obtain rfl : q = p := by simpa using hmem
            rw [hj.1]
            exact hflight _ (by simp [hx])
        · exact hreceived j q hmem
    | lose packet before after hx =>
      refine ⟨?_, hreceived⟩
      intro other hmem
      apply hflight
      rw [hx]
      rcases List.mem_append.mp hmem with hmem | hmem
      · exact List.mem_append_left _ hmem
      · exact List.mem_append_right _ (List.mem_cons_of_mem _ hmem)
    | copy packet _ hmem =>
      refine ⟨?_, hreceived⟩
      intro other hother
      rcases List.mem_cons.mp hother with rfl | hother
      · exact hflight _ hmem
      · exact hflight _ hother

/-- Without copies a packet is received at most as often as it was sent. -/
theorem at_most_once (h : Reachable P false s₀ x) (i : ι) :
    (x.received P i ++ Configuration.packetsFor i x.flight).Subperm
      (Configuration.packetsFor i x.sent) := by
  refine h.invariant (fun x => ∀ i,
    (x.received P i ++ Configuration.packetsFor i x.flight).Subperm
      (Configuration.packetsFor i x.sent)) ?_ ?_ i
  · intro i
    exact List.Subperm.refl []
  · intro x y _ ih hs j
    cases hs with
    | act i c hown =>
      change ((x.make P i c).received P j ++ Configuration.packetsFor j (x.flight ++ _)).Subperm
        (Configuration.packetsFor j (x.sent ++ _))
      rw [P.own_received hown j, Configuration.packetsFor_append, Configuration.packetsFor_append,
        ← List.append_assoc]
      exact (List.subperm_append_right _).mpr (ih j)
    | deliver i p c before after hx hcontent =>
      change ((x.make P i c).received P j ++ Configuration.packetsFor j (before ++ after)).Subperm
        (Configuration.packetsFor j x.sent)
      have hold := ih j
      rw [hx, Configuration.packetsFor_append, Configuration.packetsFor_cons] at hold
      refine List.Subperm.trans ?_ hold
      rw [Configuration.make_received, hcontent, Configuration.packetsFor_append]
      -- The packet leaves the network, and is received unless the call throws.
      split
      · rename_i hj
        rw [if_pos hj.1.symm, Option.toList_some]
        apply List.Perm.subperm
        rw [List.append_assoc]
        apply List.Perm.append_left
        rw [← List.append_assoc, ← List.append_assoc]
        exact List.Perm.append_right _ List.perm_append_comm
      · exact ((List.Sublist.refl _).append
          ((List.Sublist.refl _).append (List.sublist_append_right _ _))).subperm
    | lose packet before after hx =>
      have hold := ih j
      rw [hx] at hold
      refine List.Subperm.trans ?_ hold
      change (x.received P j ++ Configuration.packetsFor j (before ++ after)).Subperm _
      rw [Configuration.packetsFor_append, Configuration.packetsFor_append,
        Configuration.packetsFor_cons]
      exact ((List.Sublist.refl _).append
        ((List.Sublist.refl _).append (List.sublist_append_right _ _))).subperm
    | copy packet hcopies _ => cases hcopies

/-- What was sent to each party at most once, each party received at most once. -/
theorem received_nodup {β : Type} (label : π → β) (h : Reachable P false s₀ x)
    (hsent : (x.sent.map fun packet => (packet.1, label packet.2)).Nodup) (i : ι) :
    ((x.received P i).map label).Nodup := by
  obtain ⟨packets, hperm, hsub⟩ :=
    (List.Sublist.subperm (List.sublist_append_left _ _)).trans (h.at_most_once i)
  rw [← (hperm.map label).nodup_iff]
  apply List.Nodup.sublist (hsub.map label)
  rw [List.Nodup, List.pairwise_map] at hsent ⊢
  rw [Configuration.packetsFor, List.pairwise_filterMap]
  refine hsent.imp ?_
  intro a b hne p hp q hq heq
  by_cases ha : a.1 = i
  · by_cases hb : b.1 = i
    · rw [if_pos ha] at hp
      rw [if_pos hb] at hq
      apply hne
      rw [ha, hb, Option.some.inj hp, Option.some.inj hq, heq]
    · rw [if_neg hb] at hq
      cases hq
  · rw [if_neg ha] at hp
    cases hp

end Reachable

end ThalerNodelib.Parties
