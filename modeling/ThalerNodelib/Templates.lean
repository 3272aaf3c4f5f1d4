import Mathlib.Data.List.TakeWhile

/-!
Texts with placeholders. A placeholder is an opening mark, word characters and
a closing mark. Every text is in one way a sequence of placeholders and texts
without any between them, and replacing the placeholders from left to right by
what a callback answers puts its answers in their places.
-/
namespace ThalerNodelib.Templates

/-- The marks of placeholders, and the characters of their names. -/
structure Marks (α : Type) where
  opening : α
  closing : α
  word : α → Bool
  opening_not_word : word opening = false
  closing_not_word : word closing = false
  opening_ne_closing : opening ≠ closing

variable {α : Type}

namespace Marks

variable (g : Marks α)

def Name (name : List α) : Prop := ∀ c ∈ name, g.word c = true

def placeholder (name : List α) : List α := g.opening :: (name ++ [g.closing])

/-- Placeholders, each with the text up to the next one. -/
def holesText (holes : List (List α × List α)) : List α :=
  holes.flatMap fun hole => g.placeholder hole.1 ++ hole.2

/-- The text has a placeholder in it. -/
def Contains (s : List α) : Prop :=
  ∃ before name after, g.Name name ∧ s = before ++ (g.placeholder name ++ after)

end Marks

/-- Placeholders and the texts between them, each placeholder with its name and
the text up to the next one. -/
@[ext] structure Template (g : Marks α) where
  head : List α
  holes : List (List α × List α)
  head_free : ¬ g.Contains head
  names : ∀ hole ∈ holes, g.Name hole.1
  holes_free : ∀ hole ∈ holes, ¬ g.Contains hole.2

variable {g : Marks α}

namespace Template

def text (t : Template g) : List α := t.head ++ g.holesText t.holes

/-- Each value in the place of the placeholder of its position. -/
def fill (t : Template g) (values : List (List α)) : List α :=
  t.head ++ (values.zip t.holes).flatMap fun place => place.1 ++ place.2.2

/-- The same texts, between placeholders that may have other names. -/
def Renamed (t u : Template g) : Prop :=
  u.head = t.head ∧ u.holes.map Prod.snd = t.holes.map Prod.snd

theorem Renamed.length_eq {t u : Template g} (h : Renamed t u) :
    u.holes.length = t.holes.length := by
  have hlength := congrArg List.length h.2
  rwa [List.length_map, List.length_map] at hlength

theorem Renamed.fill_eq {t u : Template g} (h : Renamed t u) (values : List (List α)) :
    u.fill values = t.fill values := by
  have hbetween : ∀ v : Template g, v.fill values =
      v.head ++ (values.zip (v.holes.map Prod.snd)).flatMap fun place => place.1 ++ place.2 := by
    intro v
    rw [List.zip_map_right, List.flatMap_map]
    rfl
  rw [hbetween u, hbetween t, h.1, h.2]

end Template

/-! Where placeholders are. -/

theorem Marks.Name.opening_notMem {name : List α} (h : g.Name name) : g.opening ∉ name := by
  intro hmem
  have hword := h g.opening hmem
  rw [g.opening_not_word] at hword
  cases hword

theorem Marks.Name.closing_notMem {name : List α} (h : g.Name name) : g.closing ∉ name := by
  intro hmem
  have hword := h g.closing hmem
  rw [g.closing_not_word] at hword
  cases hword

theorem Marks.holesText_starts (holes : List (List α × List α)) :
    g.holesText holes = [] ∨ (g.holesText holes).head? = some g.opening := by
  cases holes with
  | nil => exact Or.inl rfl
  | cons hole holes => exact Or.inr rfl

theorem Marks.Contains.append_left {s : List α} (h : g.Contains s) (l : List α) :
    g.Contains (l ++ s) := by
  obtain ⟨before, name, after, hname, rfl⟩ := h
  exact ⟨l ++ before, name, after, hname, (List.append_assoc ..).symm⟩

theorem Marks.not_contains_nil : ¬ g.Contains [] := by
  intro h
  obtain ⟨before, name, after, -, h⟩ := h
  have hlen := congrArg List.length h
  simp [Marks.placeholder] at hlen

/-- A placeholder starts at the front, or there is one further on. -/
theorem Marks.contains_cons {c : α} {s : List α} :
    g.Contains (c :: s) ↔
      (c = g.opening ∧ ∃ name after, g.Name name ∧ s = name ++ g.closing :: after) ∨
        g.Contains s := by
  constructor
  · intro h
    obtain ⟨before, name, after, hname, h⟩ := h
    cases before with
    | nil =>
      rw [List.nil_append, Marks.placeholder, List.cons_append, List.cons.injEq] at h
      exact Or.inl ⟨h.1, name, after, hname, by simpa using h.2⟩
    | cons b before =>
      rw [List.cons_append, List.cons.injEq] at h
      exact Or.inr ⟨before, name, after, hname, h.2⟩
  · intro h
    rcases h with ⟨rfl, name, after, hname, rfl⟩ | h
    · exact ⟨[], name, after, hname, by simp [Marks.placeholder]⟩
    · exact h.append_left [c]

/-- In front of the opening mark there is no placeholder. -/
theorem Marks.contains_append_of_notMem {l s : List α} (hl : g.opening ∉ l) :
    g.Contains (l ++ s) ↔ g.Contains s := by
  refine ⟨fun h => ?_, fun h => h.append_left l⟩
  induction l with
  | nil => exact h
  | cons c l ih =>
    rw [List.mem_cons, not_or] at hl
    rw [List.cons_append, Marks.contains_cons] at h
    rcases h with ⟨hc, -⟩ | h
    · exact absurd hc.symm hl.1
    · exact ih hl.2 h

/-- A name does not reach into the next placeholder. -/
theorem Marks.closing_mem_of_append {l s name after : List α} (hname : g.Name name)
    (hnext : s = [] ∨ s.head? = some g.opening) (h : l ++ s = name ++ g.closing :: after) :
    ∃ after, g.Name name ∧ l = name ++ g.closing :: after := by
  have hopening : ∀ rest, s ≠ g.closing :: rest := by
    intro rest hs
    rw [hs] at hnext
    rcases hnext with hnext | hnext
    · cases hnext
    · exact g.opening_ne_closing (Option.some.inj hnext).symm
  rcases List.append_eq_append_iff.mp h with ⟨rest, hrest, hs⟩ | ⟨rest, hrest, hs⟩
  · cases rest with
    | nil => exact absurd hs (hopening after)
    | cons c rest =>
      rw [hs] at hnext
      rcases hnext with hnext | hnext
      · cases hnext
      · have hc : c = g.opening := Option.some.inj hnext
        exact absurd (by simp [hrest, hc]) hname.opening_notMem
  · cases rest with
    | nil => exact absurd hs.symm (hopening after)
    | cons c rest =>
      rw [List.cons_append, List.cons.injEq] at hs
      exact ⟨rest, hname, by rw [hrest, hs.1]⟩

/-! What a filled template contains. -/

/-- A character of the text, or a value that stands for a placeholder. -/
def Template.marked (t : Template g) (values : List (List α)) : List (α ⊕ List α) :=
  t.head.map Sum.inl ++
    (values.zip t.holes).flatMap fun place => Sum.inr place.1 :: place.2.2.map Sum.inl

def unmark (p : α ⊕ List α) : List α := Sum.elim (fun c => [c]) id p

/-- An opening and a closing mark of the text with nothing but word characters
and values of word characters between them. -/
def Template.Nested (t : Template g) (values : List (List α)) : Prop :=
  ∃ before middle after,
    t.marked values = before ++ Sum.inl g.opening :: (middle ++ Sum.inl g.closing :: after) ∧
    ∀ p ∈ middle, g.Name (unmark p)

theorem flatMap_unmark_inl (l : List α) : (l.map Sum.inl).flatMap unmark = l := by
  induction l with
  | nil => rfl
  | cons c l ih =>
    rw [List.map_cons, List.flatMap_cons, ih]
    rfl

theorem flatMap_unmark_marked (t : Template g) (values : List (List α)) :
    (t.marked values).flatMap unmark = t.fill values := by
  rw [Template.marked, List.flatMap_append, flatMap_unmark_inl, Template.fill,
    List.flatMap_assoc]
  congr 2
  funext place
  rw [List.flatMap_cons, flatMap_unmark_inl]
  rfl

/-- A character that no value has comes from the text. -/
theorem split_of_flatMap_unmark {ps : List (α ⊕ List α)} {c : α} {x y : List α}
    (hvalues : ∀ v, Sum.inr v ∈ ps → c ∉ v) (h : ps.flatMap unmark = x ++ c :: y) :
    ∃ before after, ps = before ++ Sum.inl c :: after ∧ before.flatMap unmark = x ∧
      after.flatMap unmark = y := by
  induction ps generalizing x with
  | nil => simp at h
  | cons p ps ih =>
    have hrest : ∀ v, Sum.inr v ∈ ps → c ∉ v := by
      intro v hv
      exact hvalues v (List.mem_cons_of_mem _ hv)
    rw [List.flatMap_cons] at h
    rcases List.append_eq_append_iff.mp h with ⟨rest, hx, hps⟩ | ⟨rest, hp, hy⟩
    · obtain ⟨before, after, rfl, hbefore, hafter⟩ := ih hrest hps
      exact ⟨p :: before, after, rfl, by rw [List.flatMap_cons, hbefore, hx], hafter⟩
    · cases rest with
      | nil =>
        obtain ⟨before, after, rfl, hbefore, hafter⟩ := ih hrest (x := []) hy.symm
        refine ⟨p :: before, after, rfl, ?_, hafter⟩
        rw [List.flatMap_cons, hbefore, hp, List.append_nil, List.append_nil]
      | cons d rest =>
        rw [List.cons_append, List.cons.injEq] at hy
        obtain ⟨rfl, rfl⟩ := hy
        cases p with
        | inl e =>
          have hx : x = [] ∧ c = e ∧ rest = [] := by
            cases x with
            | nil => simpa [unmark, eq_comm] using hp
            | cons b x => simp [unmark] at hp
          obtain ⟨rfl, rfl, rfl⟩ := hx
          exact ⟨[], ps, rfl, rfl, rfl⟩
        | inr v =>
          have hv : v = x ++ c :: rest := hp
          exact absurd (by simp [hv]) (hvalues v (List.mem_cons_self ..))

theorem mem_marked {t : Template g} {values : List (List α)} {v : List α}
    (h : Sum.inr v ∈ t.marked values) : v ∈ values := by
  simp only [Template.marked, List.mem_append, List.mem_map, List.mem_flatMap, List.mem_cons] at h
  rcases h with ⟨c, -, hc⟩ | ⟨place, hplace, hv | ⟨c, -, hc⟩⟩
  · cases hc
  · rw [Sum.inr.inj hv]
    exact (List.of_mem_zip hplace).1
  · cases hc

/-- A filled template contains a placeholder exactly where marks of the text
were around values. -/
theorem contains_fill_iff {t : Template g} {values : List (List α)}
    (hvalues : ∀ v ∈ values, g.opening ∉ v ∧ g.closing ∉ v) :
    g.Contains (t.fill values) ↔ t.Nested values := by
  rw [← flatMap_unmark_marked]
  constructor
  · intro h
    obtain ⟨x, name, y, hname, h⟩ := h
    rw [Marks.placeholder, List.cons_append, List.append_assoc] at h
    obtain ⟨before, rest, hmarked, -, hrest⟩ := split_of_flatMap_unmark
      (fun v hv => (hvalues v (mem_marked hv)).1) h
    obtain ⟨middle, after, rfl, hmiddle, -⟩ := split_of_flatMap_unmark
      (fun v hv => (hvalues v (mem_marked (by rw [hmarked]; simp [hv]))).2) hrest
    refine ⟨before, middle, after, hmarked, fun p hp c hc => hname c ?_⟩
    rw [← hmiddle]
    exact List.mem_flatMap.mpr ⟨p, hp, hc⟩
  · intro h
    obtain ⟨before, middle, after, hmarked, hmiddle⟩ := h
    refine ⟨before.flatMap unmark, middle.flatMap unmark, after.flatMap unmark, ?_, ?_⟩
    · intro c hc
      obtain ⟨p, hp, hc⟩ := List.mem_flatMap.mp hc
      exact hmiddle p hp c hc
    · rw [hmarked]
      simp [List.flatMap_append, List.flatMap_cons, unmark, Marks.placeholder]

/-- A character of the text, or a placeholder. -/
def Template.marks (t : Template g) : List (Option α) :=
  t.head.map some ++ t.holes.flatMap fun hole => none :: hole.2.map some

/-- An opening and a later closing mark of the text with nothing but word
characters and placeholders between them. -/
def Template.Enclosed (t : Template g) : Prop :=
  ∃ before middle after,
    t.marks = before ++ some g.opening :: (middle ++ some g.closing :: after) ∧
    ∀ c, some c ∈ middle → g.word c = true

/-- A marked text without its values. -/
def forget (p : α ⊕ List α) : Option α := Sum.elim some (fun _ => none) p

theorem forget_eq_some {p : α ⊕ List α} {c : α} : forget p = some c ↔ p = Sum.inl c := by
  cases p <;> simp [forget]

theorem map_forget_inl (l : List α) : (l.map Sum.inl).map forget = l.map some := by
  rw [List.map_map]
  rfl

theorem map_forget_places {values : List (List α)} {holes : List (List α × List α)}
    (hlength : values.length = holes.length) :
    ((values.zip holes).flatMap fun place => Sum.inr place.1 :: place.2.2.map Sum.inl).map forget =
      holes.flatMap fun hole => none :: hole.2.map some := by
  induction holes generalizing values with
  | nil => rw [List.zip_nil_right]; rfl
  | cons hole holes ih =>
    cases values with
    | nil => cases hlength
    | cons value values =>
      rw [List.zip_cons_cons, List.flatMap_cons, List.flatMap_cons, List.map_append,
        ih (Nat.succ.inj hlength), List.map_cons, map_forget_inl]
      rfl

theorem map_forget_marked {t : Template g} {values : List (List α)}
    (hlength : values.length = t.holes.length) : (t.marked values).map forget = t.marks := by
  rw [Template.marked, Template.marks, List.map_append, map_forget_inl, map_forget_places hlength]

/-- With names as values it depends on the text alone whether marks are around values. -/
theorem nested_iff_enclosed {t : Template g} {values : List (List α)}
    (hvalues : ∀ v ∈ values, g.Name v) (hlength : values.length = t.holes.length) :
    t.Nested values ↔ t.Enclosed := by
  rw [Template.Enclosed, ← map_forget_marked hlength]
  constructor
  · intro h
    obtain ⟨before, middle, after, hmarked, hmiddle⟩ := h
    refine ⟨before.map forget, middle.map forget, after.map forget, ?_, ?_⟩
    · rw [hmarked]
      simp [forget]
    · intro c hc
      obtain ⟨p, hp, hpc⟩ := List.mem_map.mp hc
      rw [forget_eq_some] at hpc
      subst hpc
      exact hmiddle _ hp c (List.mem_singleton_self c)
  · intro h
    obtain ⟨before, middle, after, hmarks, hmiddle⟩ := h
    obtain ⟨before, rest, hmarked, rfl, hrest⟩ := List.map_eq_append_iff.mp hmarks
    obtain ⟨p, rest, rfl, hp, hinner⟩ := List.map_eq_cons_iff.mp hrest
    obtain ⟨middle, rest, rfl, rfl, hlast⟩ := List.map_eq_append_iff.mp hinner
    obtain ⟨q, after, rfl, hq, rfl⟩ := List.map_eq_cons_iff.mp hlast
    rw [forget_eq_some] at hp hq
    subst hp hq
    refine ⟨before, middle, after, hmarked, ?_⟩
    intro p hp
    cases p with
    | inl c =>
      intro d hd
      rw [List.mem_singleton.mp hd]
      exact hmiddle c (List.mem_map.mpr ⟨_, hp, rfl⟩)
    | inr v =>
      apply hvalues v (mem_marked (t := t) _)
      rw [hmarked]
      simp [hp]

/-- A template filled with names contains a placeholder exactly where marks of
its text enclose nothing but word characters and placeholders. -/
theorem contains_fill_names {t : Template g} {values : List (List α)}
    (hvalues : ∀ v ∈ values, g.Name v) (hlength : values.length = t.holes.length) :
    g.Contains (t.fill values) ↔ t.Enclosed := by
  rw [← nested_iff_enclosed hvalues hlength]
  apply contains_fill_iff
  intro v hv
  exact ⟨(hvalues v hv).opening_notMem, (hvalues v hv).closing_notMem⟩

/-! Reading names. -/

/-- The name at the front of a text, up to the first closing mark. -/
def Marks.name? [DecidableEq α] (g : Marks α) (s : List α) : Option (List α) :=
  if (s.dropWhile g.word).head? = some g.closing then some (s.takeWhile g.word) else none

variable [DecidableEq α]

theorem Marks.name?_append {name : List α} (h : g.Name name) (after : List α) :
    g.name? (name ++ g.closing :: after) = some name := by
  have hclosing := g.closing_not_word
  rw [Marks.name?, List.dropWhile_append_of_pos h, List.takeWhile_append_of_pos h,
    List.dropWhile_cons_of_neg (by simp [hclosing]), List.takeWhile_cons_of_neg (by simp [hclosing])]
  simp

theorem Marks.name?_eq_some {s name : List α} :
    g.name? s = some name ↔ g.Name name ∧ ∃ after, s = name ++ g.closing :: after := by
  constructor
  · intro h
    unfold Marks.name? at h
    by_cases hclosing : (s.dropWhile g.word).head? = some g.closing
    · rw [if_pos hclosing] at h
      obtain rfl := Option.some.inj h
      obtain ⟨after, hafter⟩ := List.head?_eq_some_iff.mp hclosing
      refine ⟨fun c hc => List.mem_takeWhile_imp hc, after, ?_⟩
      rw [← hafter, List.takeWhile_append_dropWhile]
    · rw [if_neg hclosing] at h
      cases h
  · intro h
    obtain ⟨hname, after, rfl⟩ := h
    exact Marks.name?_append hname after

/-! Replacing from left to right. -/

section

variable {m : Type → Type} [Monad m]

/-- Calls `callback` for each placeholder of a text and puts its answer there.
The first `skip` characters belong to the placeholder before. -/
def replaceFrom (g : Marks α) (callback : m (List α)) (skip : ℕ) : List α → m (List α)
  | [] => pure []
  | c :: rest =>
    match skip with
    | skip + 1 => replaceFrom g callback skip rest
    | 0 =>
      match if c = g.opening then g.name? rest else none with
      | some name => do
        let value ← callback
        let replaced ← replaceFrom g callback (name.length + 1) rest
        return value ++ replaced
      | none => do
        let replaced ← replaceFrom g callback 0 rest
        return c :: replaced

variable (callback : m (List α))

theorem replaceFrom_skip (l s : List α) :
    replaceFrom g callback l.length (l ++ s) = replaceFrom g callback 0 s := by
  induction l with
  | nil => rfl
  | cons c l ih => simpa [replaceFrom] using ih

theorem replaceFrom_placeholder {name : List α} (hname : g.Name name) (s : List α) :
    replaceFrom g callback 0 (g.placeholder name ++ s) = do
      let value ← callback
      let replaced ← replaceFrom g callback 0 s
      return value ++ replaced := by
  have hskip := replaceFrom_skip (g := g) callback (name ++ [g.closing]) s
  rw [List.length_append, List.length_singleton] at hskip
  rw [Marks.placeholder, List.cons_append, replaceFrom]
  simp only [if_true, List.append_assoc, List.singleton_append, Marks.name?_append hname]
  rw [List.append_assoc, List.singleton_append] at hskip
  rw [hskip]

/-- Text without placeholders is kept, up to the end or the next placeholder. -/
theorem replaceFrom_free [LawfulMonad m] {l s : List α} (hfree : ¬ g.Contains l)
    (hnext : s = [] ∨ s.head? = some g.opening) :
    replaceFrom g callback 0 (l ++ s) = (l ++ ·) <$> replaceFrom g callback 0 s := by
  induction l with
  | nil => simp
  | cons c l ih =>
    rw [Marks.contains_cons, not_or] at hfree
    have hnone : (if c = g.opening then g.name? (l ++ s) else none) = none := by
      by_cases hc : c = g.opening
      · rw [if_pos hc, Option.eq_none_iff_forall_ne_some]
        intro name hsome
        obtain ⟨hname, after, hafter⟩ := Marks.name?_eq_some.mp hsome
        exact hfree.1 ⟨hc, name, Marks.closing_mem_of_append hname hnext hafter⟩
      · rw [if_neg hc]
    rw [List.cons_append, replaceFrom, hnone]
    simp [ih hfree.2]

theorem replaceFrom_holesText [LawfulMonad m] {holes : List (List α × List α)}
    (hnames : ∀ hole ∈ holes, g.Name hole.1) (hfree : ∀ hole ∈ holes, ¬ g.Contains hole.2) :
    replaceFrom g callback 0 (g.holesText holes) = do
      let values ← holes.mapM fun _ => callback
      return (values.zip holes).flatMap fun place => place.1 ++ place.2.2 := by
  induction holes with
  | nil => simp [replaceFrom, Marks.holesText]
  | cons hole holes ih =>
    rw [List.forall_mem_cons] at hnames hfree
    have hrest := ih hnames.2 hfree.2
    have hstarts := Marks.holesText_starts (g := g) holes
    rw [Marks.holesText] at hrest hstarts
    rw [Marks.holesText, List.flatMap_cons, List.append_assoc,
      replaceFrom_placeholder callback hnames.1, replaceFrom_free callback hfree.1 hstarts, hrest]
    simp [List.mapM_cons, List.append_assoc]

/-- Replacing from left to right is calling for each placeholder in turn and
then filling the template. -/
theorem replaceFrom_text [LawfulMonad m] (t : Template g) :
    replaceFrom g callback 0 t.text = t.fill <$> t.holes.mapM fun _ => callback := by
  rw [Template.text, replaceFrom_free callback t.head_free (Marks.holesText_starts t.holes),
    replaceFrom_holesText callback t.names t.holes_free, bind_pure_comp, Functor.map_map]
  rfl

end

/-! Reading a template from its text. -/

/-- The template of the text with one more character in front. -/
def Template.push (c : α) (t : Template g) : Template g :=
  match hname : if c = g.opening then g.name? t.head else none with
  | some name => {
      head := []
      holes := (name, t.head.drop (name.length + 1)) :: t.holes
      head_free := Marks.not_contains_nil
      names := by
        rw [List.forall_mem_cons]
        exact ⟨(Marks.name?_eq_some.mp (Option.ite_none_right_eq_some.mp hname).2).1, t.names⟩
      holes_free := by
        rw [List.forall_mem_cons]
        refine ⟨fun h => t.head_free ?_, t.holes_free⟩
        rw [← List.take_append_drop (name.length + 1) t.head]
        exact h.append_left _ }
  | none => {
      head := c :: t.head
      holes := t.holes
      head_free := by
        rw [Marks.contains_cons, not_or]
        refine ⟨fun h => ?_, t.head_free⟩
        obtain ⟨hc, name, after, hfront⟩ := h
        rw [if_pos hc, Marks.name?_eq_some.mpr ⟨hfront.1, after, hfront.2⟩] at hname
        cases hname
      names := t.names
      holes_free := t.holes_free }

def Template.empty : Template g where
  head := []
  holes := []
  head_free := Marks.not_contains_nil
  names := by simp
  holes_free := by simp

def parse (g : Marks α) (s : List α) : Template g := s.foldr Template.push Template.empty

theorem text_push (c : α) (t : Template g) : (t.push c).text = c :: t.text := by
  unfold Template.push
  split
  · next name hname =>
    obtain ⟨hc, hname⟩ := Option.ite_none_right_eq_some.mp hname
    obtain ⟨-, after, hafter⟩ := Marks.name?_eq_some.mp hname
    simp [Template.text, Marks.holesText, Marks.placeholder, hafter, hc]
  · rfl

/-- Every text has a template. -/
theorem text_parse (s : List α) : (parse g s).text = s := by
  induction s with
  | nil => rfl
  | cons c s ih => rw [parse, List.foldr_cons, text_push, ← parse, ih]

theorem push_of_free {c : α} {t : Template g} (hfree : ¬ g.Contains (c :: t.head)) :
    (t.push c).head = c :: t.head ∧ (t.push c).holes = t.holes := by
  unfold Template.push
  split
  · next name hname =>
    obtain ⟨hc, hname⟩ := Option.ite_none_right_eq_some.mp hname
    obtain ⟨hname, after, hafter⟩ := Marks.name?_eq_some.mp hname
    exact absurd (Marks.contains_cons.mpr (Or.inl ⟨hc, name, after, hname, hafter⟩)) hfree
  · exact ⟨rfl, rfl⟩

theorem foldr_push_of_free {l : List α} {t : Template g} (hfree : ¬ g.Contains (l ++ t.head)) :
    (l.foldr Template.push t).head = l ++ t.head ∧
      (l.foldr Template.push t).holes = t.holes := by
  induction l with
  | nil => exact ⟨rfl, rfl⟩
  | cons c l ih =>
    have hrest : ¬ g.Contains (l ++ t.head) := by
      intro h
      exact hfree (Marks.contains_cons.mpr (Or.inr h))
    obtain ⟨hhead, hholes⟩ := ih hrest
    have hpush := push_of_free (c := c) (t := l.foldr Template.push t) (by rwa [hhead])
    rwa [hhead, hholes] at hpush

theorem foldr_push_placeholder {name : List α} (hname : g.Name name) (t : Template g) :
    ((g.placeholder name).foldr Template.push t).head = [] ∧
      ((g.placeholder name).foldr Template.push t).holes = (name, t.head) :: t.holes := by
  have hclosing : g.opening ∉ name ++ [g.closing] := by
    simp [hname.opening_notMem, g.opening_ne_closing]
  obtain ⟨hhead, hholes⟩ := foldr_push_of_free (l := name ++ [g.closing])
    (fun h => t.head_free ((Marks.contains_append_of_notMem hclosing).mp h))
  rw [Marks.placeholder, List.foldr_cons]
  generalize (name ++ [g.closing]).foldr Template.push t = u at hhead hholes
  rw [List.append_assoc, List.singleton_append] at hhead
  have hfront : (if g.opening = g.opening then g.name? u.head else none) = some name := by
    rw [if_pos rfl, hhead, Marks.name?_append hname]
  unfold Template.push
  split
  · next name' hname' =>
    obtain rfl := Option.some.inj (hfront.symm.trans hname')
    simp [hhead, hholes]
  · next hnone =>
    rw [hfront] at hnone
    cases hnone

theorem foldr_push_holesText {holes : List (List α × List α)}
    (hnames : ∀ hole ∈ holes, g.Name hole.1) (hfree : ∀ hole ∈ holes, ¬ g.Contains hole.2) :
    (parse g (g.holesText holes)).head = [] ∧ (parse g (g.holesText holes)).holes = holes := by
  unfold parse
  induction holes with
  | nil => exact ⟨rfl, rfl⟩
  | cons hole holes ih =>
    rw [List.forall_mem_cons] at hnames hfree
    obtain ⟨hhead, hholes⟩ := ih hnames.2 hfree.2
    rw [Marks.holesText, List.flatMap_cons, List.foldr_append, List.foldr_append]
    obtain ⟨hhead', hholes'⟩ := foldr_push_of_free (l := hole.2)
      (t := (g.holesText holes).foldr Template.push Template.empty)
      (by rw [hhead, List.append_nil]; exact hfree.1)
    obtain ⟨hhead'', hholes''⟩ := foldr_push_placeholder hnames.1 
      (hole.2.foldr Template.push ((g.holesText holes).foldr Template.push Template.empty))
    rw [hhead', hholes', hhead, hholes, List.append_nil] at hholes''
    exact ⟨hhead'', hholes''⟩

/-- A text has only one template. -/
theorem parse_text (t : Template g) : parse g t.text = t := by
  obtain ⟨hhead, hholes⟩ := foldr_push_holesText t.names t.holes_free
  unfold parse at hhead hholes ⊢
  rw [Template.text, List.foldr_append]
  obtain ⟨hhead', hholes'⟩ := foldr_push_of_free (l := t.head)
    (t := (g.holesText t.holes).foldr Template.push Template.empty)
    (by rw [hhead, List.append_nil]; exact t.head_free)
  apply Template.ext
  · rw [hhead', hhead, List.append_nil]
  · rw [hholes', hholes]

end ThalerNodelib.Templates
