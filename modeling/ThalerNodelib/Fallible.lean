import Mathlib.Data.List.Perm.Basic
import Mathlib.Logic.Basic

/-!
Computations that return a value or an error: when a sequence of them, or one
for each element of a list, returns.
-/
namespace ThalerNodelib

variable {ε β γ : Type}

/-- A computation returns one value. -/
theorem ok_unique {x : Except ε β} {b c : β} (hb : x = .ok b) (hc : x = .ok c) : b = c :=
  Except.ok.inj (hb.symm.trans hc)

theorem bind_eq_ok {x : Except ε β} {f : β → Except ε γ} {c : γ} :
    (x >>= f) = .ok c ↔ ∃ b, x = .ok b ∧ f b = .ok c := by
  cases x with
  | ok b => simp [bind, Except.bind]
  | error e => simp [bind, Except.bind]

/-- What returns the same after a step, up to the error, does so with it. -/
theorem toOption_bind_congr {x : Except ε β} {f g : β → Except ε γ}
    (h : ∀ b, (f b).toOption = (g b).toOption) : (x >>= f).toOption = (x >>= g).toOption := by
  cases x with
  | ok b => exact h b
  | error e => rfl

theorem map_eq_ok {x : Except ε β} {f : β → γ} {c : γ} :
    x.map f = .ok c ↔ ∃ b, x = .ok b ∧ f b = c := by
  cases x <;> simp [Except.map]

/-- A check that throws, before the rest of a sequence. -/
theorem ite_throw_bind_eq_ok {p : Prop} [Decidable p] {e : ε} {f : β → Except ε γ}
    {y : Except ε γ} {c : γ} :
    (if p then (throw e : Except ε β) >>= f else y) = .ok c ↔ ¬ p ∧ y = .ok c := by
  by_cases hp : p
  · rw [if_pos hp]
    exact ⟨nofun, fun h => absurd hp h.1⟩
  · rw [if_neg hp]
    exact ⟨fun h => ⟨hp, h⟩, And.right⟩

/-- A check that throws, at the end. -/
theorem ite_throw_eq_ok {p : Prop} [Decidable p] {e : ε} {y : Except ε γ} {c : γ} :
    (if p then throw e else y) = .ok c ↔ ¬ p ∧ y = .ok c := by
  by_cases hp : p
  · rw [if_pos hp]
    exact ⟨nofun, fun h => absurd hp h.1⟩
  · rw [if_neg hp]
    exact ⟨fun h => ⟨hp, h⟩, And.right⟩

theorem eq_ok_of_isSome {x : Except ε β} (h : x.toOption.isSome = true) :
    x = .ok (x.toOption.get h) := by
  cases x with
  | ok b => rfl
  | error e => cases h

/-- A list is mapped when each element is. -/
theorem mapM_eq_ok (f : β → Except ε γ) (bs : List β) (cs : List γ) :
    bs.mapM f = .ok cs ↔ List.Forall₂ (fun b c => f b = .ok c) bs cs := by
  induction bs generalizing cs with
  | nil =>
    rw [List.mapM_nil, List.forall₂_nil_left_iff]
    exact ⟨fun h => (Except.ok.inj h).symm, fun h => h ▸ rfl⟩
  | cons b rest ih =>
    rw [List.mapM_cons, bind_eq_ok, List.forall₂_cons_left_iff]
    constructor
    · intro hmapped
      obtain ⟨c, hb, hrest⟩ := hmapped
      obtain ⟨ds, hds, hcs⟩ := bind_eq_ok.mp hrest
      exact ⟨c, ds, hb, (ih ds).mp hds, (Except.ok.inj hcs).symm⟩
    · intro hmapped
      obtain ⟨c, ds, hb, hds, rfl⟩ := hmapped
      exact ⟨c, hb, bind_eq_ok.mpr ⟨ds, (ih ds).mpr hds, rfl⟩⟩

theorem forall₂_trans {δ : Type} {R : β → γ → Prop} {S : γ → δ → Prop} {T : β → δ → Prop}
    (h : ∀ b c d, R b c → S c d → T b d) {bs : List β} {cs : List γ} {ds : List δ}
    (hR : List.Forall₂ R bs cs) (hS : List.Forall₂ S cs ds) : List.Forall₂ T bs ds := by
  induction hR generalizing ds with
  | nil =>
    cases hS
    exact .nil
  | cons hbc _ ih =>
    cases hS with
    | cons hcd hrest => exact .cons (h _ _ _ hbc hcd) (ih hrest)

/-- A list is mapped in any order, with the results in that order. -/
theorem mapM_perm {f : β → Except ε γ} {bs bs' : List β} {cs : List γ}
    (hperm : (bs.map fun b => (f b).toOption).Perm (bs'.map fun b => (f b).toOption))
    (h : bs.mapM f = .ok cs) : ∃ cs', bs'.mapM f = .ok cs' ∧ cs'.Perm cs := by
  have hsome : ∀ b c, (f b).toOption = some c ↔ f b = .ok c := by
    intro b c
    cases f b <;> simp [Except.toOption]
  have hread : ∀ (bs : List β) (cs : List γ), bs.mapM f = .ok cs ↔
      List.Forall₂ (fun o c => o = some c) (bs.map fun b => (f b).toOption) cs := by
    intro bs cs
    rw [mapM_eq_ok, List.forall₂_map_left_iff]
    simp only [hsome]
  obtain ⟨cs', hcs', hperm'⟩ := List.perm_comp_forall₂ hperm.symm ((hread bs cs).mp h)
  exact ⟨cs', (hread bs' cs').mpr hcs', hperm'⟩

/-- Each result is that of an element. -/
theorem exists_of_mem_mapM {f : β → Except ε γ} {bs : List β} {cs : List γ}
    (h : bs.mapM f = .ok cs) {c : γ} (hc : c ∈ cs) : ∃ b ∈ bs, f b = .ok c := by
  have hall := (mapM_eq_ok f bs cs).mp h
  obtain ⟨i, hi, rfl⟩ := List.getElem_of_mem hc
  have hi' : i < bs.length := by rwa [hall.length_eq]
  exact ⟨bs[i], List.getElem_mem hi', hall.get hi' hi⟩

theorem mapM_isOk {f : β → Except ε γ} {bs : List β} (h : ∀ b ∈ bs, ∃ c, f b = .ok c) :
    ∃ cs, bs.mapM f = .ok cs := by
  induction bs with
  | nil => exact ⟨[], rfl⟩
  | cons b rest ih =>
    obtain ⟨c, hc⟩ := h b (List.mem_cons_self ..)
    obtain ⟨cs, hcs⟩ := ih fun d hd => h d (List.mem_cons_of_mem _ hd)
    refine ⟨c :: cs, ?_⟩
    rw [List.mapM_cons, hc, hcs]
    rfl

/-- Of an element that is replaced only the outcome counts. -/
theorem mapM_set {f : β → Except ε γ} {b b' : β} (h : f b' = f b) (bs : List β) (i : ℕ) :
    (bs.set i b').mapM f = (bs.set i b).mapM f := by
  induction bs generalizing i with
  | nil => rfl
  | cons c rest ih =>
    cases i with
    | zero => rw [List.set_cons_zero, List.set_cons_zero, List.mapM_cons, List.mapM_cons, h]
    | succ i =>
      rw [List.set_cons_succ, List.set_cons_succ, List.mapM_cons, List.mapM_cons, ih]

theorem mapM_isOk_iff (f : β → Except ε γ) (bs : List β) :
    (∃ cs, bs.mapM f = .ok cs) ↔ ∀ b ∈ bs, ∃ c, f b = .ok c := by
  constructor
  · intro h b hb
    obtain ⟨cs, hcs⟩ := h
    obtain ⟨i, hi, rfl⟩ := List.getElem_of_mem hb
    have hall := (mapM_eq_ok f bs cs).mp hcs
    exact ⟨_, hall.get hi (hall.length_eq ▸ hi)⟩
  · exact mapM_isOk

end ThalerNodelib
