import Mathlib.Tactic.IntervalCases
import ReflectCheck.Proofs.Space.Growth

/-!
# The representation invariant of object spaces

A space built by the operations is well formed (`Space.WellFormed`): slots 0 to 8 hold
the built-in classes with their names and superclasses, and every entity is linked as
the operations link it (`Space.SlotOk`):

* only the root class `BasicObject` has no superclass;
* a superclass, and the class of an instance, is an earlier class other than `Class`;
* a singleton class comes after the entity it is attached to, and that entity links
  back to it; the singleton class of an entity comes after it and is attached to it, so
  an entity has at most one singleton class (`WellFormed.singleton_unique`);
* instances and singleton classes have no name.

The initial space is well formed, and every growth step and every naming keeps it so;
hence every space reached by any sequence of calls is well formed
(`Space.wellFormed_runCalls`).
-/

namespace ReflectCheck

namespace Space

/-- `h` names a class of `s`. -/
def IsClass (s : Space) (h : Handle) : Prop := ∃ e, s.get? h = some e ∧ e.kind.isClass

/-- The links of the entity `e` in slot `h` of `s`, as the operations make them. -/
structure SlotOk (s : Space) (h : Handle) (e : Entity) : Prop where
  /-- Only the root class has no superclass. -/
  root : e.kind = .cls none → h = .basicObject
  /-- A superclass is an earlier class, and not `Class`. -/
  superclass : ∀ p, e.kind = .cls (some p) → p.slot < h.slot ∧ s.IsClass p ∧ p ≠ .classClass
  /-- The class of an instance is an earlier class, and not `Class`. -/
  cls : ∀ c, e.kind = .inst c → c.slot < h.slot ∧ s.IsClass c ∧ c ≠ .classClass
  /-- A singleton class comes after the entity it is attached to, which links to it. -/
  attached : ∀ a, e.kind = .single a →
    a.slot < h.slot ∧ ∃ ea, s.get? a = some ea ∧ ea.singleton = some h
  /-- The singleton class of an entity comes after it, and is attached to it. -/
  singleton : ∀ t, e.singleton = some t →
    h.slot < t.slot ∧ ∃ et, s.get? t = some et ∧ et.kind = .single h
  /-- Instances and singleton classes have no name. -/
  name : e.kind.isClass = false → e.name = none

/-- The representation invariant of an object space. -/
structure WellFormed (s : Space) : Prop where
  /-- Slots 0 to 8 hold the built-in classes, with their names and superclasses. -/
  builtins : ∀ i name sc, builtinClasses[i]? = some (name, sc) →
    ∃ e, s.get? ⟨i⟩ = some e ∧ e.kind = .cls sc ∧ e.name = some name
  /-- Every entity is linked as the operations link it. -/
  slot : ∀ h e, s.get? h = some e → s.SlotOk h e

/-! ### Growing a well-formed space -/

theorem IsClass.mono {s s' : Space} (hx : s.Extends s') {p : Handle} (hp : s.IsClass p) :
    s'.IsClass p := by
  obtain ⟨e, he, hc⟩ := hp
  obtain ⟨e', he', hx'⟩ := hx p e he
  exact ⟨e', he', hx'.kind ▸ hc⟩

/-- The links of an entity stay in place as the space grows. -/
theorem SlotOk.mono {s s' : Space} (hx : s.Extends s') {h : Handle} {e : Entity}
    (ho : s.SlotOk h e) : s'.SlotOk h e where
  root := ho.root
  superclass p hp :=
    let ⟨hlt, hc, hne⟩ := ho.superclass p hp
    ⟨hlt, hc.mono hx, hne⟩
  cls c hc' :=
    let ⟨hlt, hc, hne⟩ := ho.cls c hc'
    ⟨hlt, hc.mono hx, hne⟩
  attached a ha := by
    obtain ⟨hlt, ea, hea, hs⟩ := ho.attached a ha
    obtain ⟨ea', hea', hx'⟩ := hx a ea hea
    exact ⟨hlt, ea', hea', hx'.singleton h hs⟩
  singleton t ht := by
    obtain ⟨hlt, et, het, hk⟩ := ho.singleton t ht
    obtain ⟨et', het', hx'⟩ := hx t et het
    exact ⟨hlt, et', het', hx'.kind.trans hk⟩
  name := ho.name

/-- A space that extends a well-formed one is well formed when each of its entities is
    an entity of the old space, or is linked as the operations link it. -/
theorem WellFormed.of_extends {s s' : Space} (hw : s.WellFormed) (hx : s.Extends s')
    (hnew : ∀ h e', s'.get? h = some e' → s.get? h = some e' ∨ s'.SlotOk h e') :
    s'.WellFormed where
  builtins i name sc hb := by
    obtain ⟨e, he, hk, hn⟩ := hw.builtins i name sc hb
    obtain ⟨e', he', hx'⟩ := hx ⟨i⟩ e he
    exact ⟨e', he', hx'.kind.trans hk, hx'.name name hn⟩
  slot h e' he' := (hnew h e' he').elim (fun he => (hw.slot h e' he).mono hx) id

/-- A new class or instance in the next free slot keeps a space well formed when its
    link goes to a class other than `Class`. -/
theorem WellFormed.push {s : Space} (hw : s.WellFormed) {k : Kind} {n : Option String}
    (hok : (s.push ⟨k, n, none⟩).SlotOk ⟨s.size⟩ ⟨k, n, none⟩) :
    (s.push ⟨k, n, none⟩).WellFormed := by
  refine hw.of_extends (extends_push s _) fun h e' he' => ?_
  rw [get?_push] at he'
  by_cases hs : h.slot = s.size
  · rw [if_pos hs, Option.some.injEq] at he'
    subst he'
    exact .inr (Handle.eq_iff.2 hs ▸ hok)
  · rw [if_neg hs] at he'
    exact .inl he'

theorem slotOk_push_cls {s : Space} {p : Handle} {e : Entity} (hp : s.get? p = some e)
    (hc : e.kind.isClass) (hne : p ≠ .classClass) (n : Option String) :
    (s.push ⟨.cls (some p), n, none⟩).SlotOk ⟨s.size⟩ ⟨.cls (some p), n, none⟩ where
  root h := by cases h
  superclass p' h := by
    cases h
    exact ⟨get?_lt hp, IsClass.mono (extends_push s _) ⟨e, hp, hc⟩, hne⟩
  cls _ h := by cases h
  attached _ h := by cases h
  singleton _ h := by cases h
  name h := by cases h

theorem slotOk_push_inst {s : Space} {c : Handle} {e : Entity} (hc : s.get? c = some e)
    (hk : e.kind.isClass) (hne : c ≠ .classClass) :
    (s.push ⟨.inst c, none, none⟩).SlotOk ⟨s.size⟩ ⟨.inst c, none, none⟩ where
  root h := by cases h
  superclass _ h := by cases h
  cls c' h := by
    cases h
    exact ⟨get?_lt hc, IsClass.mono (extends_push s _) ⟨e, hc, hk⟩, hne⟩
  attached _ h := by cases h
  singleton _ h := by cases h
  name _ := rfl

/-- Attaching a singleton class to an entity that has none keeps a space well formed. -/
theorem WellFormed.attach {s : Space} (hw : s.WellFormed) {h : Handle} {e : Entity}
    (he : s.get? h = some e) (hn : e.singleton = none) : (s.attach h).WellFormed := by
  have hlt := get?_lt he
  have hx := extends_attach he hn
  -- the entity now links to its new singleton class, which is attached to it
  have hlink : (s.attach h).get? h = some { e with singleton := some ⟨s.size⟩ } := by
    rw [get?_attach hlt, if_pos rfl, he, Option.map_some]
  have hne : h ≠ ⟨s.size⟩ := fun hh => Nat.ne_of_lt hlt (Handle.eq_iff.1 hh)
  have hnew : (s.attach h).get? ⟨s.size⟩ = some ⟨.single h, none, none⟩ := by
    rw [get?_attach hlt, if_neg hne, if_pos rfl]
  refine hw.of_extends hx fun h' e' he' => ?_
  rw [get?_attach hlt] at he'
  by_cases hh : h = h'
  · subst hh
    rw [if_pos rfl, he, Option.map_some, Option.some.injEq] at he'
    subst he'
    have ho := (hw.slot h e he).mono hx
    exact .inr ⟨ho.root, ho.superclass, ho.cls, ho.attached,
      fun t ht => by
        cases ht
        exact ⟨hlt, _, hnew, rfl⟩,
      ho.name⟩
  · rw [if_neg hh] at he'
    by_cases hs : h'.slot = s.size
    · rw [if_pos hs, Option.some.injEq] at he'
      subst he'
      obtain rfl : h' = ⟨s.size⟩ := Handle.eq_iff.2 hs
      exact .inr {
        root := fun hk => by cases hk
        superclass := fun _ hk => by cases hk
        cls := fun _ hk => by cases hk
        attached := fun a hk => by
          cases hk
          exact ⟨hlt, _, hlink, rfl⟩
        singleton := fun _ ht => by cases ht
        name := fun _ => rfl }
    · rw [if_neg hs] at he'
      exact .inl he'

/-- Naming an anonymous class keeps a space well formed. -/
theorem WellFormed.rename {s : Space} (hw : s.WellFormed) {h : Handle} {e : Entity}
    (he : s.get? h = some e) (hc : e.kind.isClass) (hn : e.name = none) (n : String) :
    (s.rename h n).WellFormed := by
  have hx := extends_rename he hn n
  refine hw.of_extends hx fun h' e' he' => ?_
  rw [get?_rename] at he'
  by_cases hh : h = h'
  · subst hh
    rw [if_pos rfl, he, Option.map_some, Option.some.injEq] at he'
    subst he'
    have ho := (hw.slot h e he).mono hx
    exact .inr ⟨ho.root, ho.superclass, ho.cls, ho.attached, ho.singleton,
      fun hc' => absurd hc (by rw [hc']; decide)⟩
  · rw [if_neg hh] at he'
    exact .inl he'

theorem Grow.wellFormed {s s' : Space} (hg : Grow s s') (hw : s.WellFormed) :
    s'.WellFormed := by
  cases hg with
  | defineClass n hp hc hne => exact hw.push (slotOk_push_cls hp hc hne n)
  | newInstance hc hk hne => exact hw.push (slotOk_push_inst hc hk hne)
  | attach he hn => exact hw.attach he hn

theorem Grows.wellFormed {s s' : Space} (hg : Grows s s') (hw : s.WellFormed) :
    s'.WellFormed := by
  induction hg with
  | refl => exact hw
  | tail _ hstep ih => exact hstep.wellFormed ih

/-- Every call keeps a space well formed, whether it succeeds or fails. -/
theorem WellFormed.perform {s : Space} (hw : s.WellFormed) (c : Call) :
    (c.perform s).WellFormed := by
  rcases c.grows_or_renames s with hg | ⟨h, n, e, -, he, hc, hn, hs⟩
  · exact hg.wellFormed hw
  · exact hs ▸ hw.rename he hc hn n

theorem WellFormed.runCalls {s : Space} (hw : s.WellFormed) (calls : List Call) :
    (s.runCalls calls).WellFormed := by
  induction calls generalizing s with
  | nil => exact hw
  | cons c calls ih => exact ih (hw.perform c)

/-! ### The initial space -/

theorem get?_initial (h : Handle) :
    initial.get? h = (builtinClasses[h.slot]?).map fun (name, sc) =>
      { kind := .cls sc, name := some name, singleton := none } := by
  simp [initial, get?]

/-- In the table of built-in classes, only the first has no superclass, and every
    superclass is an earlier built-in class other than `Class`. -/
theorem builtinClasses_links {i : Nat} {name : String} {sc : Option Handle}
    (hb : builtinClasses[i]? = some (name, sc)) :
    (sc = none → i = 0) ∧
      ∀ p, sc = some p → p.slot < i ∧ p.slot < builtinCount ∧ p ≠ .classClass := by
  have hi : i < 9 := by
    by_contra hi
    rw [List.getElem?_eq_none (by simp [builtinClasses]; omega)] at hb
    cases hb
  interval_cases i <;> simp [builtinClasses] at hb <;> obtain ⟨rfl, rfl⟩ := hb <;> decide

theorem isClass_initial {p : Handle} (hp : p.slot < builtinCount) : initial.IsClass p :=
  ⟨_, by rw [get?_initial, List.getElem?_eq_getElem hp]; rfl, rfl⟩

theorem wellFormed_initial : initial.WellFormed where
  builtins i name sc hb := ⟨_, by rw [get?_initial, hb]; rfl, rfl, rfl⟩
  slot h e he := by
    rw [get?_initial] at he
    obtain ⟨⟨name, sc⟩, hb, rfl⟩ := Option.map_eq_some_iff.1 he
    obtain ⟨hroot, hsuper⟩ := builtinClasses_links hb
    exact {
      root := fun hk => by
        cases hk
        exact Handle.eq_iff.2 (hroot rfl)
      superclass := fun p hk => by
        cases hk
        obtain ⟨hlt, hbuiltin, hne⟩ := hsuper p rfl
        exact ⟨hlt, isClass_initial hbuiltin, hne⟩
      cls := fun _ hk => by cases hk
      attached := fun _ hk => by cases hk
      singleton := fun _ ht => by cases ht
      name := fun hc => by cases hc }

/-! ### Consequences -/

/-- An entity has at most one singleton class. -/
theorem WellFormed.singleton_unique {s : Space} (hw : s.WellFormed) {a t t' : Handle}
    {et et' : Entity} (ht : s.get? t = some et) (hk : et.kind = .single a)
    (ht' : s.get? t' = some et') (hk' : et'.kind = .single a) : t = t' := by
  obtain ⟨-, ea, hea, hs⟩ := (hw.slot t et ht).attached a hk
  obtain ⟨-, ea', hea', hs'⟩ := (hw.slot t' et' ht').attached a hk'
  rw [hea] at hea'
  cases hea'
  rw [hs] at hs'
  exact Option.some.inj hs'

/-- Every space reached from a fresh one by any sequence of calls, with any arguments
    and whether they fail or not, is well formed, and no entity of it has two singleton
    classes. -/
theorem wellFormed_runCalls (calls : List Call) :
    (initial.runCalls calls).WellFormed ∧
      ∀ a t t' et et', (initial.runCalls calls).get? t = some et → et.kind = .single a →
        (initial.runCalls calls).get? t' = some et' → et'.kind = .single a → t = t' :=
  have hw := wellFormed_initial.runCalls calls
  ⟨hw, fun _ _ _ _ _ ht hk ht' hk' => hw.singleton_unique ht hk ht' hk'⟩

end Space

end ReflectCheck
