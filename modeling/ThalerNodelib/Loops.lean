import Mathlib.Data.Nat.Notation

/-!
Loops with a condition and a body that can fail. What holds of the first state
and survives each iteration holds wherever the condition is checked.
-/
namespace ThalerNodelib.Loops

variable {σ : Type}

/-- The states in which the condition of a loop is checked. -/
inductive Head (guard : σ → Prop) (body : σ → Option σ) (s₀ : σ) : σ → Prop
  | start : Head guard body s₀ s₀
  | next {s t : σ} :
      Head guard body s₀ s → guard s → body s = some t → Head guard body s₀ t

/-- The loop, with one unit of fuel for each check; `none` where the body fails
or the fuel runs out. -/
def whileLoop (guard : σ → Prop) [DecidablePred guard] (body : σ → Option σ) : ℕ → σ → Option σ
  | 0, _ => none
  | fuel + 1, s =>
    if guard s then (body s).bind (whileLoop guard body fuel) else some s

variable {guard : σ → Prop} {body : σ → Option σ} {s₀ s : σ}

theorem Head.invariant (I : σ → Prop) (hstart : I s₀)
    (hnext : ∀ s t, I s → guard s → body s = some t → I t) (h : Head guard body s₀ s) : I s := by
  induction h with
  | start => exact hstart
  | next _ hguard hbody ih => exact hnext _ _ ih hguard hbody

/-- A loop whose variant falls with every iteration ends, at one of its heads. -/
theorem whileLoop_ends (guard : σ → Prop) [DecidablePred guard] (body : σ → Option σ)
    (I : σ → Prop) (variant : σ → ℕ)
    (hnext : ∀ s, I s → guard s → ∃ t, body s = some t ∧ I t ∧ variant t < variant s)
    (fuel : ℕ) (s : σ) (hI : I s) (hfuel : variant s < fuel) :
    ∃ t, whileLoop guard body fuel s = some t ∧ I t ∧ ¬ guard t := by
  induction fuel generalizing s with
  | zero => omega
  | succ fuel ih =>
    rw [whileLoop]
    by_cases hguard : guard s
    · obtain ⟨t, hbody, hIt, hvariant⟩ := hnext s hI hguard
      rw [if_pos hguard, hbody, Option.bind_some]
      exact ih t hIt (by omega)
    · rw [if_neg hguard]
      exact ⟨s, rfl, hI, hguard⟩

end ThalerNodelib.Loops
