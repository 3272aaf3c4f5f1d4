import Mathlib.Logic.Basic

/-!
A value computed from the rest of a state, kept in it once computed, and
dropped when what it depends on changes. The cell is given by the operations
that drop and store the value and by the computation it caches.
-/
namespace ThalerNodelib

structure LazyCell (ε σ β : Type) where
  clear : σ → σ
  fill : σ → β → σ
  build : σ → Except ε β
  clear_clear : ∀ s, clear (clear s) = clear s
  clear_fill : ∀ s v, clear (fill s v) = clear s
  fill_clear : ∀ s v, fill (clear s) v = fill s v
  fill_fill : ∀ s v w, fill (fill s v) w = fill s w
  build_clear : ∀ s, build (clear s) = build s
  build_fill : ∀ s v, build (fill s v) = build s

namespace LazyCell

variable {ε σ β : Type} (L : LazyCell ε σ β)

attribute [simp] clear_clear clear_fill fill_clear fill_fill build_clear build_fill

/-- The cell is empty, or holds what would be computed now. -/
def Coherent (s : σ) : Prop :=
  L.clear s = s ∨ ∃ v, L.build s = .ok v ∧ L.fill s v = s

theorem coherent_clear (s : σ) : L.Coherent (L.clear s) := Or.inl (L.clear_clear s)

theorem coherent_fill {s : σ} {v : β} (h : L.build s = .ok v) : L.Coherent (L.fill s v) :=
  Or.inr ⟨v, by rw [L.build_fill, h], L.fill_fill s v v⟩

/-- Nothing changed, or the cell was empty and now holds what would be computed. -/
def AtMostFilled (s t : σ) : Prop :=
  t = s ∨ L.clear s = s ∧ ∃ v, L.build s = .ok v ∧ t = L.fill s v

theorem atMostFilled_fill {s : σ} (hs : L.Coherent s) {v : β} (h : L.build s = .ok v) :
    L.AtMostFilled s (L.fill s v) := by
  rcases hs with hempty | ⟨w, hw, hfull⟩
  · exact Or.inr ⟨hempty, v, h, rfl⟩
  · obtain rfl : w = v := Except.ok.inj (hw.symm.trans h)
    exact Or.inl hfull

/-- Equal up to what the cell holds. -/
def Same (s t : σ) : Prop := L.clear s = L.clear t

theorem same_fill (s : σ) (v : β) : L.Same s (L.fill s v) := (L.clear_fill s v).symm

theorem Same.build_eq {s t : σ} (h : L.Same s t) : L.build s = L.build t := by
  rw [← L.build_clear s, h, L.build_clear]

/-- A method that computes the value where the cell is empty and leaves a full
cell alone. It changes nothing when the computation throws. -/
structure Forces (m : EStateM ε σ Unit) : Prop where
  full : ∀ s v, L.build s = .ok v → m.run (L.fill s v) = .ok () (L.fill s v)
  empty_ok : ∀ s v, L.build s = .ok v → m.run (L.clear s) = .ok () (L.fill s v)
  empty_error : ∀ s e, L.build s = .error e → m.run (L.clear s) = .error e (L.clear s)

/-- From a coherent state it does not matter whether the cell was full. -/
theorem Forces.run {m : EStateM ε σ Unit} (hm : L.Forces m) {s : σ} (hs : L.Coherent s) :
    m.run s = match L.build s with
      | .ok v => .ok () (L.fill s v)
      | .error e => .error e s := by
  cases hb : L.build s with
  | ok v =>
    rcases hs with hempty | ⟨w, hw, hfull⟩
    · have h := hm.empty_ok s v hb
      rwa [hempty] at h
    · obtain rfl : w = v := by simpa [hb] using hw.symm
      have h := hm.full s w hb
      simpa only [hfull] using h
  | error e =>
    rcases hs with hempty | ⟨w, hw, -⟩
    · have h := hm.empty_error s e hb
      rwa [hempty] at h
    · simp [hb] at hw

end LazyCell
end ThalerNodelib
