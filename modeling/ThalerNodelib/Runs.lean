import Mathlib.Data.List.Basic
import Mathlib.Data.List.Infix
import Mathlib.Logic.Basic

/-!
Objects whose methods return or throw and keep their state either way.
A run is the list of its calls, newest first, each with the state it met and
its outcome, so that a property can speak of what happened since an earlier
call. Two runs that differ by some calls are compared along an alignment.
-/
namespace ThalerNodelib.Runs

variable {ε σ κ ω : Type}

/-- One method for each call. A thrown error keeps the assignments made before it. -/
abbrev Machine (ε σ κ ω : Type) := κ → EStateM ε σ ω

def outcome (m : Machine ε σ κ ω) (s : σ) (c : κ) : Except ε ω :=
  match (m c).run s with
  | .ok v _ => .ok v
  | .error e _ => .error e

def next (m : Machine ε σ κ ω) (s : σ) (c : κ) : σ :=
  match (m c).run s with
  | .ok _ t => t
  | .error _ t => t

theorem outcome_ok {m : Machine ε σ κ ω} {s t : σ} {c : κ} {v : ω}
    (h : (m c).run s = .ok v t) : outcome m s c = .ok v := by simp [outcome, h]

theorem outcome_error {m : Machine ε σ κ ω} {s t : σ} {c : κ} {e : ε}
    (h : (m c).run s = .error e t) : outcome m s c = .error e := by simp [outcome, h]

theorem next_ok {m : Machine ε σ κ ω} {s t : σ} {c : κ} {v : ω}
    (h : (m c).run s = .ok v t) : next m s c = t := by simp [next, h]

theorem next_error {m : Machine ε σ κ ω} {s t : σ} {c : κ} {e : ε}
    (h : (m c).run s = .error e t) : next m s c = t := by simp [next, h]

/-- A relation of what a method runs to is one of its outcome and next state. -/
theorem of_run_ok {R : σ → κ → Except ε ω → σ → Prop} {m : Machine ε σ κ ω} {s t : σ} {c : κ}
    {v : ω} (h : (m c).run s = .ok v t) (hR : R s c (.ok v) t) :
    R s c (outcome m s c) (next m s c) := by
  rwa [outcome_ok h, next_ok h]

theorem of_run_error {R : σ → κ → Except ε ω → σ → Prop} {m : Machine ε σ κ ω} {s t : σ} {c : κ}
    {e : ε} (h : (m c).run s = .error e t) (hR : R s c (.error e) t) :
    R s c (outcome m s c) (next m s c) := by
  rwa [outcome_error h, next_error h]

/-- One call of a run: the state it met, the call and what it returned or threw. -/
structure Entry (ε σ κ ω : Type) where
  before : σ
  call : κ
  outcome : Except ε ω

namespace Entry

def succeeded (e : Entry ε σ κ ω) : Bool :=
  match e.outcome with
  | .ok _ => true
  | .error _ => false

theorem succeeded_iff (e : Entry ε σ κ ω) :
    e.succeeded = true ↔ ∃ v, e.outcome = .ok v := by
  cases h : e.outcome <;> simp [succeeded, h]

end Entry

def entry (m : Machine ε σ κ ω) (s : σ) (c : κ) : Entry ε σ κ ω := ⟨s, c, outcome m s c⟩

abbrev Log (ε σ κ ω : Type) := List (Entry ε σ κ ω)

/-- What the successful calls of a run contributed, oldest first. -/
def accepted {α : Type} (part : κ → Option α) (log : Log ε σ κ ω) : List α :=
  (log.reverse.filter Entry.succeeded).filterMap fun e => part e.call

theorem accepted_cons {α : Type} (part : κ → Option α) (e : Entry ε σ κ ω) (log : Log ε σ κ ω) :
    accepted part (e :: log) =
      accepted part log ++ if e.succeeded then (part e.call).toList else [] := by
  cases hok : e.succeeded <;> cases hpart : part e.call <;>
    simp [accepted, List.filter_append, hok, hpart]

theorem accepted_some {α : Type} {part : κ → Option α} {e : Entry ε σ κ ω} {a : α}
    (hok : e.succeeded = true) (hpart : part e.call = some a) (log : Log ε σ κ ω) :
    accepted part (e :: log) = accepted part log ++ [a] := by
  simp [accepted_cons, hok, hpart]

theorem accepted_none {α : Type} {part : κ → Option α} {e : Entry ε σ κ ω}
    (h : e.succeeded = true → part e.call = none) (log : Log ε σ κ ω) :
    accepted part (e :: log) = accepted part log := by
  rw [accepted_cons]
  cases hok : e.succeeded with
  | false => simp
  | true => simp [h hok]

theorem accepted_append {α : Type} (part : κ → Option α) (newer older : Log ε σ κ ω) :
    accepted part (newer ++ older) = accepted part older ++ accepted part newer := by
  simp [accepted, List.filter_append]

theorem accepted_of_succeeded {α : Type} (part : κ → Option α) {log : Log ε σ κ ω}
    (h : ∀ e ∈ log, e.succeeded = true) :
    accepted part log = log.reverse.filterMap fun e => part e.call := by
  rw [accepted, List.filter_eq_self.mpr fun e he => h e (List.mem_reverse.mp he)]

/-- Every finite sequence of calls from `s₀`, with its log and the state it reaches. -/
inductive Run (m : Machine ε σ κ ω) (s₀ : σ) : Log ε σ κ ω → σ → Prop
  | start : Run m s₀ [] s₀
  | call {log : Log ε σ κ ω} {s : σ} (c : κ) :
      Run m s₀ log s → Run m s₀ (entry m s c :: log) (next m s c)

/-- The run that makes the given calls in order. -/
def execute (m : Machine ε σ κ ω) (s₀ : σ) (calls : List κ) : Log ε σ κ ω × σ :=
  calls.foldl (fun p c => (entry m p.2 c :: p.1, next m p.2 c)) ([], s₀)

theorem run_foldl (m : Machine ε σ κ ω) (s₀ : σ) (calls : List κ) (p : Log ε σ κ ω × σ)
    (hp : Run m s₀ p.1 p.2) :
    Run m s₀ (calls.foldl (fun p c => (entry m p.2 c :: p.1, next m p.2 c)) p).1
      (calls.foldl (fun p c => (entry m p.2 c :: p.1, next m p.2 c)) p).2 := by
  induction calls generalizing p with
  | nil => exact hp
  | cons c rest ih => exact ih _ (.call c hp)

theorem run_execute (m : Machine ε σ κ ω) (s₀ : σ) (calls : List κ) :
    Run m s₀ (execute m s₀ calls).1 (execute m s₀ calls).2 :=
  run_foldl m s₀ calls ([], s₀) .start

theorem execute_foldl (m : Machine ε σ κ ω) (calls : List κ) (p : Log ε σ κ ω × σ) :
    (calls.foldl (fun p c => (entry m p.2 c :: p.1, next m p.2 c)) p).2 =
      calls.foldl (next m) p.2 := by
  induction calls generalizing p with
  | nil => rfl
  | cons c rest ih => exact ih _

theorem execute_state (m : Machine ε σ κ ω) (s₀ : σ) (calls : List κ) :
    (execute m s₀ calls).2 = calls.foldl (next m) s₀ :=
  execute_foldl m calls ([], s₀)

theorem execute_cons (m : Machine ε σ κ ω) (s : σ) (c : κ) (calls : List κ) :
    (execute m s (c :: calls)).2 = (execute m (next m s c) calls).2 := by
  rw [execute_state, execute_state, List.foldl_cons]

theorem log_foldl (m : Machine ε σ κ ω) (calls : List κ) (p : Log ε σ κ ω × σ) :
    (calls.foldl (fun p c => (entry m p.2 c :: p.1, next m p.2 c)) p).1 =
      (execute m p.2 calls).1 ++ p.1 := by
  induction calls generalizing p with
  | nil => rfl
  | cons c rest ih =>
    have hone := ih ([entry m p.2 c], next m p.2 c)
    have hexecute : (execute m p.2 (c :: rest)).1 =
        (execute m (next m p.2 c) rest).1 ++ [entry m p.2 c] := hone
    rw [List.foldl_cons, ih, hexecute, List.append_assoc]
    rfl

theorem execute_log_cons (m : Machine ε σ κ ω) (s : σ) (c : κ) (calls : List κ) :
    (execute m s (c :: calls)).1 = (execute m (next m s c) calls).1 ++ [entry m s c] :=
  log_foldl m calls ([entry m s c], next m s c)

/-- The log has the calls, newest first. -/
theorem execute_calls (m : Machine ε σ κ ω) (s : σ) (calls : List κ) :
    (execute m s calls).1.map Entry.call = calls.reverse := by
  induction calls generalizing s with
  | nil => rfl
  | cons c rest ih =>
    rw [execute_log_cons, List.map_append, ih, List.reverse_cons]
    rfl

/-- Calls that succeed where an invariant holds, and keep it, all succeed. -/
theorem execute_succeeds {m : Machine ε σ κ ω} {I : Log ε σ κ ω → σ → Prop} {wanted : κ → Prop}
    (hcall : ∀ log s c, I log s → wanted c →
      (∃ v, outcome m s c = .ok v) ∧ I (entry m s c :: log) (next m s c))
    {log : Log ε σ κ ω} {s : σ} (hs : I log s) {calls : List κ} (hcalls : ∀ c ∈ calls, wanted c) :
    (∀ e ∈ (execute m s calls).1, e.succeeded = true) ∧
      I ((execute m s calls).1 ++ log) (execute m s calls).2 := by
  induction calls generalizing log s with
  | nil => exact ⟨fun e he => (List.not_mem_nil he).elim, hs⟩
  | cons c rest ih =>
    obtain ⟨hok, hnext⟩ := hcall log s c hs (hcalls c (List.mem_cons_self ..))
    obtain ⟨hrest, hI⟩ := ih hnext fun d hd => hcalls d (List.mem_cons_of_mem _ hd)
    rw [execute_log_cons, execute_cons, List.append_assoc]
    refine ⟨fun e he => ?_, hI⟩
    rcases List.mem_append.mp he with hold | hnew
    · exact hrest e hold
    · obtain rfl := List.mem_singleton.mp hnew
      exact (Entry.succeeded_iff _).mpr hok

namespace Run

variable {m : Machine ε σ κ ω} {s₀ s t : σ} {log log' : Log ε σ κ ω}

/-- What holds at the start and survives each call holds of every log and state. -/
theorem invariant (I : Log ε σ κ ω → σ → Prop) (hstart : I [] s₀)
    (hcall : ∀ log s c, Run m s₀ log s → I log s → I (entry m s c :: log) (next m s c))
    (run : Run m s₀ log s) : I log s := by
  induction run with
  | start => exact hstart
  | call c run ih => exact hcall _ _ c run ih

theorem state_invariant (I : σ → Prop) (hstart : I s₀)
    (hcall : ∀ s c, I s → I (next m s c)) (run : Run m s₀ log s) : I s :=
  invariant (fun _ s => I s) hstart (fun _ s c _ h => hcall s c h) run

/-- Dropping the newest calls of a run leaves a run. -/
theorem suffix (run : Run m s₀ log s) (h : log' <:+ log) : ∃ t, Run m s₀ log' t := by
  induction run with
  | start =>
    rw [List.suffix_nil] at h
    subst h
    exact ⟨s₀, .start⟩
  | @call log s c run ih =>
    rcases List.suffix_cons_iff.mp h with heq | hrest
    · subst heq
      exact ⟨_, .call c run⟩
    · exact ih hrest

/-- A run is an older one and one that goes on from the state that it reaches. -/
theorem split {older : Log ε σ κ ω} (newer : Log ε σ κ ω) (run : Run m s₀ (newer ++ older) s) :
    ∃ t, Run m s₀ older t ∧ Run m t newer s := by
  induction newer generalizing s with
  | nil => exact ⟨s, run, .start⟩
  | cons e newer ih =>
    cases run with
    | call c run =>
      obtain ⟨t, holder, hnewer⟩ := ih run
      exact ⟨t, holder, .call c hnewer⟩

/-- Calls made from the state that a run reaches go on with the run. -/
theorem append_execute (run : Run m s₀ log s) (calls : List κ) :
    Run m s₀ ((execute m s calls).1 ++ log) (execute m s calls).2 := by
  have hrun := run_foldl m s₀ calls (log, s) run
  rwa [log_foldl, execute_foldl, ← execute_state] at hrun

/-- Each entry of a run was made by the machine in a state that the run reaches. -/
theorem mem_entry (run : Run m s₀ log s) {e : Entry ε σ κ ω} (he : e ∈ log) :
    ∃ older, e :: older <:+ log ∧ Run m s₀ older e.before ∧ e = entry m e.before e.call := by
  induction run with
  | start => simp at he
  | @call log s c run ih =>
    rcases List.mem_cons.mp he with rfl | hrest
    · exact ⟨log, List.suffix_rfl, run, rfl⟩
    · obtain ⟨older, hsuffix, hrun, heq⟩ := ih hrest
      exact ⟨older, hsuffix.trans (List.suffix_cons _ _), hrun, heq⟩

end Run

/-- `P` holds of every state of the run, with the calls that led to it. -/
def Throughout (m : Machine ε σ κ ω) (s₀ : σ) (log : Log ε σ κ ω)
    (P : Log ε σ κ ω → σ → Prop) : Prop :=
  ∀ older t, older <:+ log → Run m s₀ older t → P older t

/-- In each state of the run that is ready, the wanted calls would succeed. -/
def SucceedsWhen (m : Machine ε σ κ ω) (s₀ : σ) (log : Log ε σ κ ω) (ready : σ → Prop)
    (wanted : κ → Prop) : Prop :=
  Throughout m s₀ log fun _ t => ready t → ∀ c, wanted c → ∃ v, outcome m t c = .ok v

/-- Some entry satisfies `P`, and no later one satisfies `Q`. -/
def Since {α : Type} (P Q : α → Prop) (log : List α) : Prop :=
  ∃ newer e older, log = newer ++ e :: older ∧ P e ∧ ∀ x ∈ newer, ¬ Q x

section Since
variable {α : Type} {P Q : α → Prop}

theorem since_cons (e : α) (log : List α) :
    Since P Q (e :: log) ↔ P e ∨ (¬ Q e ∧ Since P Q log) := by
  constructor
  · intro h
    obtain ⟨newer, x, older, heq, hx, hnew⟩ := h
    cases newer with
    | nil =>
      obtain ⟨rfl, -⟩ := List.cons.inj heq
      exact Or.inl hx
    | cons y newer =>
      obtain ⟨rfl, hrest⟩ := List.cons.inj heq
      exact Or.inr ⟨hnew e (List.mem_cons_self ..), newer, x, older, hrest, hx,
        fun z hz => hnew z (List.mem_cons_of_mem _ hz)⟩
  · intro h
    rcases h with he | ⟨hq, newer, x, older, heq, hx, hnew⟩
    · exact ⟨[], e, log, rfl, he, by simp⟩
    · refine ⟨e :: newer, x, older, by simp [heq], hx, ?_⟩
      intro z hz
      rcases List.mem_cons.mp hz with rfl | hz
      · exact hq
      · exact hnew z hz

/-- What is among the newest entries, with nothing after it that ends it. -/
theorem since_of_mem {newer : List α} {e : α} (he : e ∈ newer) (hP : P e)
    (hQ : ∀ x ∈ newer, ¬ Q x) (log : List α) : Since P Q (newer ++ log) := by
  obtain ⟨before, after, rfl⟩ := List.append_of_mem he
  refine ⟨before, e, after ++ log, by simp, hP, fun x hx => ?_⟩
  exact hQ x (List.mem_append_left _ hx)

theorem Since.mono {P' : α → Prop} (h : ∀ e, P e → P' e) {log : List α}
    (hs : Since P Q log) : Since P' Q log := by
  obtain ⟨newer, e, older, heq, he, hnew⟩ := hs
  exact ⟨newer, e, older, heq, h e he, hnew⟩

end Since

/-- Two call sequences that agree on the calls kept in `ps` and differ only by
calls that `skip` allows in the state where they are made. -/
inductive Alignment (m : Machine ε σ κ ω) (skip : σ → κ → Prop) :
    σ → List κ → σ → List κ → List (σ × σ × κ) → Prop
  | nil (s t : σ) : Alignment m skip s [] t [] []
  | both {s t : σ} {cs ds : List κ} {ps : List (σ × σ × κ)} (c : κ) :
      Alignment m skip (next m s c) cs (next m t c) ds ps →
      Alignment m skip s (c :: cs) t (c :: ds) ((s, t, c) :: ps)
  | left {s t : σ} {cs ds : List κ} {ps : List (σ × σ × κ)} (c : κ) :
      skip s c → Alignment m skip (next m s c) cs t ds ps →
      Alignment m skip s (c :: cs) t ds ps
  | right {s t : σ} {cs ds : List κ} {ps : List (σ × σ × κ)} (c : κ) :
      skip t c → Alignment m skip s cs (next m t c) ds ps →
      Alignment m skip s cs t (c :: ds) ps

/-- A relation kept by common calls and by skipped calls of either run holds
whenever a common call is made. -/
theorem Alignment.related {m : Machine ε σ κ ω} {skip : σ → κ → Prop} (R : σ → σ → Prop)
    (hboth : ∀ s t c, R s t → R (next m s c) (next m t c))
    (hleft : ∀ s t c, skip s c → R s t → R (next m s c) t)
    (hright : ∀ s t c, skip t c → R s t → R s (next m t c))
    {s t : σ} {cs ds : List κ} {ps : List (σ × σ × κ)}
    (h : Alignment m skip s cs t ds ps) (hR : R s t) : ∀ p ∈ ps, R p.1 p.2.1 := by
  induction h with
  | nil => simp
  | @both s t cs ds ps c _ ih =>
    intro p hp
    rcases List.mem_cons.mp hp with rfl | hp
    · exact hR
    · exact ih (hboth s t c hR) p hp
  | @left s t cs ds ps c hskip _ ih => exact ih (hleft s t c hskip hR)
  | @right s t cs ds ps c hskip _ ih => exact ih (hright s t c hskip hR)

end ThalerNodelib.Runs
