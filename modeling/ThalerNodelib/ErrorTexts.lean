import ThalerNodelib.FunctionTypes
import ThalerNodelib.Runs

/-!
Where an error comes from. The native module puts a text of its own before the
error of a crate, and no two of these texts start alike, so a computation that
does not use the one text never throws an error that starts with it.
-/
namespace ThalerNodelib.ErrorTexts

open Js FunctionTypes

/-- An error with the text that `chain_neon` makes of the message. -/
def Chained (message : String) (e : JsError) : Prop := ∃ err, e = .error (message ++ ": " ++ err)

/-- The computation throws no error with the message. -/
def Avoids {α : Type} (message : String) (x : Except JsError α) : Prop :=
  ∀ e, x = .error e → ¬ Chained message e

/-- Neither text is the start of the other, told by their characters. -/
inductive Apart : String → String → Prop
  | of {chars other : List Char} (h : chars.isPrefixOf other = false)
      (h' : other.isPrefixOf chars = false) : Apart (String.ofList chars) (String.ofList other)

theorem Apart.append_ne {text other : String} (h : Apart text other) (x y : String) :
    text ++ x ≠ other ++ y := by
  intro heq
  obtain ⟨hstart, hend⟩ := h
  rename_i chars other
  have hlists := congrArg String.toList heq
  simp only [String.toList_append, String.toList_ofList] at hlists
  have hother : other <+: chars ++ x.toList := by
    rw [hlists]
    exact List.prefix_append ..
  rcases List.prefix_or_prefix_of_prefix (List.prefix_append chars x.toList) hother with hle | hle
  · rw [List.isPrefixOf_iff_prefix.mpr hle] at hstart
    cases hstart
  · rw [List.isPrefixOf_iff_prefix.mpr hle] at hend
    cases hend

/-- A text that starts apart from the message is none that `chain_neon` makes of it. -/
theorem Apart.not_chained {text message : String} (h : Apart text message) (rest : String) :
    ¬ Chained message (.error (text ++ rest)) := by
  intro hchained
  obtain ⟨err, herr⟩ := hchained
  apply h.append_ne rest (": " ++ err)
  rw [JsError.error.inj herr, String.append_assoc]

namespace Avoids

variable {α β : Type} {message : String}

theorem ok (v : α) : Avoids message (.ok v) := by
  intro e h
  cases h

theorem of_eq_ok {x : Except JsError α} {v : α} (h : x = .ok v) : Avoids message x := by
  rw [h]
  exact .ok v

theorem error {e : JsError} (h : ¬ Chained message e) :
    Avoids message (.error e : Except JsError α) := by
  intro e' he
  rwa [← Except.error.inj he]

/-- A text that starts in another way. -/
theorem text {start : String} (h : Apart start message) (rest : String) :
    Avoids message (.error (.error (start ++ rest)) : Except JsError α) :=
  error (h.not_chained rest)

theorem literal {text : String} (h : Apart text message) :
    Avoids message (.error (.error text) : Except JsError α) := by
  apply error
  have hempty := h.not_chained ""
  rwa [String.append_empty] at hempty

theorem typeError (text : String) :
    Avoids message (.error (.typeError text) : Except JsError α) := by
  apply error
  intro hchained
  obtain ⟨err, herr⟩ := hchained
  cases herr

theorem argumentError (label text : String) :
    Avoids message (.error (.argumentError label text) : Except JsError α) := by
  apply error
  intro hchained
  obtain ⟨err, herr⟩ := hchained
  cases herr

theorem bind {x : Except JsError α} {f : α → Except JsError β} (hx : Avoids message x)
    (hf : ∀ v, x = .ok v → Avoids message (f v)) : Avoids message (x >>= f) := by
  cases x with
  | ok v => exact hf v rfl
  | error e => exact error (hx e rfl)

/-- The error of a crate behind another message. -/
theorem chainNeon {x : Except String α} {other : String} (h : Apart other message) :
    Avoids message (FunctionTypes.chainNeon x other) := by
  cases x with
  | ok v => exact .ok v
  | error err =>
    apply error
    rw [String.append_assoc]
    exact h.not_chained _

theorem chainNeon_bind {x : Except String α} {other : String} {f : α → Except JsError β}
    (h : Apart other message) (hf : ∀ v, Avoids message (f v)) :
    Avoids message (FunctionTypes.chainNeon x other >>= f) :=
  bind (chainNeon h) fun v _ => hf v

theorem chainThrow (crates : Crates) {x : Except JsError α} {other : String}
    (h : Apart other message) : Avoids message (FunctionTypes.chainThrow crates x other) := by
  cases x with
  | ok v => exact .ok v
  | error err => exact chainNeon (x := .error crates.neon.throw) h

theorem map {x : Except JsError α} (hx : Avoids message x) (f : α → β) :
    Avoids message (x.map f) := by
  cases x with
  | ok v => exact .ok (f v)
  | error e => exact error (hx e rfl)

theorem ite {p : Prop} [Decidable p] {x y : Except JsError α} (hx : Avoids message x)
    (hy : Avoids message y) : Avoids message (if p then x else y) := by
  by_cases hp : p
  · rwa [if_pos hp]
  · rwa [if_neg hp]

theorem mapM {f : α → Except JsError β} {inputs : List α}
    (h : ∀ input ∈ inputs, Avoids message (f input)) : Avoids message (inputs.mapM f) := by
  induction inputs with
  | nil => exact .ok []
  | cons input rest ih =>
    rw [List.forall_mem_cons] at h
    rw [List.mapM_cons]
    exact h.1.bind fun v _ => (ih h.2).bind fun vs _ => .ok (v :: vs)

theorem bufferArgument (crates : Crates) (value : Option Buffer) :
    Avoids message (FunctionTypes.bufferArgument crates value) := by
  cases value with
  | some bytes => exact .ok bytes
  | none => exact typeError _

theorem ow (failure : Option String) (label : String) : Avoids message (Js.ow failure label) := by
  cases failure with
  | none => exact .ok ()
  | some text => exact argumentError label text

theorem owNative {failure : Except JsError (Option String)} (h : Avoids message failure)
    (label : String) : Avoids message (Js.owNative failure label) := by
  cases failure with
  | ok failure => exact ow failure label
  | error e => exact error (h e rfl)

end Avoids

/-- The method, called in the state, throws no error with the message. -/
def AvoidsAt {σ α : Type} (message : String) (m : Method σ α) (s : σ) : Prop :=
  ∀ e t, m.run s = .error e t → ¬ Chained message e

namespace AvoidsAt

variable {σ α β : Type} {message : String} {s : σ}

theorem of_run_ok {m : Method σ α} {v : α} {t : σ} (h : m.run s = .ok v t) :
    AvoidsAt message m s := by
  intro e t he
  rw [h] at he
  cases he

theorem call {x : Except JsError α} (h : Avoids message x) : AvoidsAt message (Js.call x) s := by
  intro e t he
  cases x with
  | ok v => cases he
  | error e' =>
    rw [run_call] at he
    cases he
    exact h e rfl

theorem throw {e : JsError} (h : Avoids message (.error e : Except JsError α)) :
    AvoidsAt message (MonadExcept.throw e : Method σ α) s := by
  intro e' t he
  cases he
  exact h e rfl

theorem bind {m : Method σ α} {f : α → Method σ β} (hm : AvoidsAt message m s)
    (hf : ∀ v t, m.run s = .ok v t → AvoidsAt message (f v) t) : AvoidsAt message (m >>= f) s := by
  intro e t he
  rw [EStateM.run_bind] at he
  cases hrun : m.run s with
  | ok v u =>
    rw [hrun] at he
    exact hf v u hrun e t he
  | error e' u =>
    rw [hrun] at he
    cases he
    exact hm e t hrun

/-- A call leaves the state as it is. -/
theorem call_bind {x : Except JsError α} {f : α → Method σ β} (hx : Avoids message x)
    (hf : ∀ v, AvoidsAt message (f v) s) : AvoidsAt message (Js.call x >>= f) s := by
  refine bind (call hx) fun v t h => ?_
  cases x with
  | ok w =>
    cases h
    exact hf v
  | error e => cases h

theorem get_bind {f : σ → Method σ β} (h : AvoidsAt message (f s) s) :
    AvoidsAt message (get >>= f) s := h

theorem ite {p : Prop} [Decidable p] {m n : Method σ α} (hm : AvoidsAt message m s)
    (hn : AvoidsAt message n s) : AvoidsAt message (if p then m else n) s := by
  by_cases hp : p
  · rwa [if_pos hp]
  · rwa [if_neg hp]

theorem outcome {κ : Type} {m : Runs.Machine JsError σ κ α} {c : κ}
    (h : AvoidsAt message (m c) s) : Avoids message (Runs.outcome m s c) := by
  intro e he
  unfold Runs.outcome at he
  cases hrun : (m c).run s with
  | ok v t =>
    rw [hrun] at he
    cases he
  | error e' t =>
    rw [hrun] at he
    cases he
    exact h e t hrun

end AvoidsAt

end ThalerNodelib.ErrorTexts
