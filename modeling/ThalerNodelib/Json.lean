import Mathlib.Data.List.Forall2
import ThalerNodelib.Js

/-!
JSON texts of strings and objects, read without white space between the tokens.
Objects keep their members in the order of the text.
-/
namespace ThalerNodelib.Json

open Js

inductive Value
  | string (text : String)
  | object (members : List (String × Value))

/-- The character that a backslash and one character stand for. -/
def escaped (c : Char) : Option Char :=
  if c = '"' then some '"'
  else if c = '\\' then some '\\'
  else if c = '/' then some '/'
  else if c = 'b' then some (Char.ofNat 8)
  else if c = 'f' then some (Char.ofNat 12)
  else if c = 'n' then some '\n'
  else if c = 'r' then some '\r'
  else if c = 't' then some '\t'
  else none

/-- The character of four hex digits; half of a surrogate pair is none. -/
def unicode (a b c d : Char) : Option Char := do
  let a ← hexValue a
  let b ← hexValue b
  let c ← hexValue c
  let d ← hexValue d
  let n := 16 * (16 * (16 * a + b) + c) + d
  if n.isValidChar then some (Char.ofNat n) else none

/-- The first character that the text inside a string stands for, and what follows it. -/
def readChar : List Char → Option (Char × List Char)
  | '\\' :: 'u' :: x :: y :: z :: w :: rest => (unicode x y z w).map fun c => (c, rest)
  | '\\' :: e :: rest => (escaped e).map fun c => (c, rest)
  | c :: rest => if c = '"' ∨ c = '\\' ∨ c.toNat < 32 then none else some (c, rest)
  | [] => none

/-- The characters up to the closing quote, and what follows it. -/
def readChars : ℕ → List Char → Option (List Char × List Char)
  | 0, _ => none
  | fuel + 1, text =>
    match readChar text with
    | some (c, rest) => do
      let (chars, rest) ← readChars fuel rest
      return (c :: chars, rest)
    | none =>
      match text with
      | '"' :: rest => some ([], rest)
      | _ => none

mutual

def readValue : ℕ → List Char → Option (Value × List Char)
  | fuel + 1, '"' :: rest => do
    let (chars, rest) ← readChars fuel rest
    return (.string (String.ofList chars), rest)
  | _ + 1, '\x7b' :: '\x7d' :: rest => some (.object [], rest)
  | fuel + 1, '\x7b' :: rest => do
    let (members, rest) ← readMembers fuel rest
    return (.object members, rest)
  | _, _ => none

/-- The members up to the closing brace, at least one. -/
def readMembers : ℕ → List Char → Option (List (String × Value) × List Char)
  | 0, _ => none
  | fuel + 1, text =>
    match readValue fuel text with
    | some (.string name, ':' :: rest) =>
      match readValue fuel rest with
      | some (value, '\x7d' :: rest) => some ([(name, value)], rest)
      | some (value, ',' :: rest) => do
        let (members, rest) ← readMembers fuel rest
        return ((name, value) :: members, rest)
      | _ => none
    | _ => none

end

/-- The value of a whole text: every token is at least one character. -/
def parse (text : String) : Option Value :=
  match readValue text.toList.length text.toList with
  | some (value, []) => some value
  | _ => none

/-- The text of a value, wherever it stands and whatever follows it. -/
def ReadsAs (text : String) (value : Value) : Prop :=
  ∀ fuel rest, text.toList.length ≤ fuel →
    readValue fuel (text.toList ++ rest) = some (value, rest)

theorem ReadsAs.parse_eq {text : String} {value : Value} (h : ReadsAs text value) :
    parse text = some value := by
  have hread := h text.toList.length [] le_rfl
  rw [List.append_nil] at hread
  rw [parse, hread]

/-- A text is the text of one value. -/
theorem ReadsAs.unique {text : String} {v w : Value} (hv : ReadsAs text v)
    (hw : ReadsAs text w) : v = w := by
  have h := hv.parse_eq
  rw [hw.parse_eq] at h
  exact (Option.some.inj h).symm

/-! Strings. -/

/-- A text inside a string that stands for one character. -/
def ReadsChar (text : List Char) (c : Char) : Prop :=
  text ≠ [] ∧ ∀ rest, readChar (text ++ rest) = some (c, rest)

theorem readsChar_self {c : Char} (hquote : c ≠ '"') (hslash : c ≠ '\\') (hc : ¬ c.toNat < 32) :
    ReadsChar [c] c := by
  refine ⟨List.cons_ne_nil _ _, fun rest => ?_⟩
  rw [List.singleton_append, readChar.eq_3]
  · rw [if_neg (by simp only [hquote, hslash, hc, or_self, not_false_eq_true])]
  · intro _ _ _ _ _ hfirst
    exact absurd hfirst hslash
  · intro _ _ hfirst
    exact absurd hfirst hslash

theorem readsChar_escaped {e c : Char} (he : e ≠ 'u') (h : escaped e = some c) :
    ReadsChar ['\\', e] c := by
  refine ⟨List.cons_ne_nil _ _, fun rest => ?_⟩
  change readChar ('\\' :: e :: rest) = _
  rw [readChar.eq_2, h]
  · rfl
  · intro _ _ _ _ _ hfirst
    exact absurd hfirst he

theorem readsChar_unicode {x y z w c : Char} (h : unicode x y z w = some c) :
    ReadsChar ['\\', 'u', x, y, z, w] c := by
  refine ⟨List.cons_ne_nil _ _, fun rest => ?_⟩
  change readChar ('\\' :: 'u' :: x :: y :: z :: w :: rest) = _
  rw [readChar, h]
  rfl

theorem readChars_flatMap {encode : Char → List Char} (h : ∀ c, ReadsChar (encode c) c)
    (chars : List Char) (fuel : ℕ) (rest : List Char)
    (hfuel : (chars.flatMap encode).length < fuel) :
    readChars fuel (chars.flatMap encode ++ '"' :: rest) = some (chars, rest) := by
  induction chars generalizing fuel with
  | nil =>
    obtain ⟨fuel, rfl⟩ : ∃ n, fuel = n + 1 := ⟨fuel - 1, by omega⟩
    rfl
  | cons c chars ih =>
    obtain ⟨fuel, rfl⟩ : ∃ n, fuel = n + 1 := ⟨fuel - 1, by omega⟩
    have hlength := List.length_pos_of_ne_nil (h c).1
    rw [List.flatMap_cons, List.length_append] at hfuel
    rw [List.flatMap_cons, List.append_assoc, readChars.eq_def]
    simp only [(h c).2, ih fuel (by omega)]
    rfl

theorem readsAs_string {encode : Char → List Char} (h : ∀ c, ReadsChar (encode c) c)
    {quoted text : String} (hquoted : quoted.toList = '"' :: text.toList.flatMap encode ++ ['"']) :
    ReadsAs quoted (.string text) := by
  intro fuel rest hfuel
  rw [hquoted, List.cons_append, List.length_cons, List.length_append] at hfuel
  obtain ⟨fuel, rfl⟩ : ∃ n, fuel = n + 1 := ⟨fuel - 1, by omega⟩
  have hchars := readChars_flatMap h text.toList fuel rest (by simp at hfuel ⊢; omega)
  have hshape : '"' :: text.toList.flatMap encode ++ ['"'] ++ rest =
      '"' :: (text.toList.flatMap encode ++ '"' :: rest) := by
    simp only [List.cons_append, List.append_assoc, List.nil_append]
  rw [hquoted, hshape, readValue, hchars]
  change some (Value.string (String.ofList text.toList), rest) = _
  rw [String.ofList_toList]

/-! Objects. -/

/-- The text of a member. -/
def ReadsMember (text : String) (member : String × Value) : Prop :=
  ∃ name value, text = name ++ ":" ++ value ∧ ReadsAs name (.string member.1) ∧
    ReadsAs value member.2

theorem readMembers_member {text : String} {member : String × Value}
    (h : ReadsMember text member) {fuel : ℕ} (hfuel : text.toList.length ≤ fuel)
    (rest : List Char) :
    readMembers (fuel + 1) (text.toList ++ '\x7d' :: rest) = some ([member], rest) ∧
    readMembers (fuel + 1) (text.toList ++ ',' :: rest) =
      (readMembers fuel rest).map fun p => (member :: p.1, p.2) := by
  obtain ⟨name, value, rfl, hname, hvalue⟩ := h
  have hshape : (name ++ ":" ++ value).toList = name.toList ++ ':' :: value.toList := by simp
  rw [hshape, List.length_append, List.length_cons] at hfuel
  rw [hshape]
  constructor
  · rw [readMembers, List.append_assoc, hname fuel _ (by omega), List.cons_append]
    simp only [hvalue fuel _ (by omega)]
  · rw [readMembers, List.append_assoc, hname fuel _ (by omega), List.cons_append]
    simp only [hvalue fuel _ (by omega)]
    cases readMembers fuel rest <;> rfl

theorem readMembers_intercalate {texts : List String} {members : List (String × Value)}
    (h : List.Forall₂ ReadsMember texts members) (hne : members ≠ []) (fuel : ℕ)
    (rest : List Char) (hfuel : (String.intercalate "," texts).toList.length < fuel) :
    readMembers fuel ((String.intercalate "," texts).toList ++ '\x7d' :: rest) =
      some (members, rest) := by
  induction h generalizing fuel with
  | nil => exact absurd rfl hne
  | @cons text member texts members hmember htexts ih =>
    obtain ⟨fuel, rfl⟩ : ∃ n, fuel = n + 1 := ⟨fuel - 1, by omega⟩
    cases htexts with
    | nil =>
      rw [String.intercalate_singleton] at hfuel ⊢
      exact (readMembers_member hmember (by omega) rest).1
    | cons hnext htexts =>
      rw [String.intercalate_cons_cons, String.toList_append, String.toList_append,
        List.length_append, List.length_append] at hfuel
      have hcomma : ",".toList = [','] := rfl
      rw [hcomma, List.length_singleton] at hfuel
      rw [String.intercalate_cons_cons, String.toList_append, String.toList_append, hcomma,
        List.append_assoc, List.append_assoc, List.singleton_append,
        (readMembers_member hmember (by omega) _).2, ih (List.cons_ne_nil _ _) fuel (by omega)]
      rfl

/-- No member starts with a closing brace. -/
theorem readMembers_close (fuel : ℕ) (rest : List Char) :
    readMembers fuel ('\x7d' :: rest) = none := by
  rcases fuel with _ | _ | fuel
  · rfl
  · rfl
  · rfl

theorem readsAs_object {texts : List String} {members : List (String × Value)}
    (h : List.Forall₂ ReadsMember texts members) :
    ReadsAs ("\x7b" ++ String.intercalate "," texts ++ "\x7d") (.object members) := by
  intro fuel rest hfuel
  have hshape : ("\x7b" ++ String.intercalate "," texts ++ "\x7d").toList =
      '\x7b' :: (String.intercalate "," texts).toList ++ ['\x7d'] := by simp
  rw [hshape, List.length_append, List.length_cons, List.length_singleton] at hfuel
  obtain ⟨fuel, rfl⟩ : ∃ n, fuel = n + 1 := ⟨fuel - 1, by omega⟩
  rw [hshape, List.append_assoc, List.cons_append, List.singleton_append]
  by_cases hne : members = []
  · subst hne
    cases h
    rfl
  · have hmembers := readMembers_intercalate h hne fuel rest (by omega)
    rw [readValue.eq_3, hmembers]
    · rfl
    · intro tail htail
      rw [htail, readMembers_close] at hmembers
      cases hmembers

end ThalerNodelib.Json
