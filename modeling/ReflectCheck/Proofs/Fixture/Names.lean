import ReflectCheck.Proofs.Fixture.Declarations
import ReflectCheck.Proofs.Space.Inspect

/-!
# Names in a loaded fixture

The names of a fixture's entities are the names of its constants: the built-in classes, and
each class declared, or made as an instance of `Class`, under its constant's name qualified
with the module. Loading keeps every named entity bound under its name
(`Scope.NamesBound`): a declaration names at most its own new entity (`Space.AddsName`),
under a name not bound yet, and binds that name to it; evaluating an expression names
nothing. As the bound names are qualified constants, each bound once, the space of a loaded
fixture is well named, and so it stays through every run of its examples, whose producers
only evaluate expressions (`Fixture.LoadedFixture.evaluateAll_wellNamed`).
-/

namespace ReflectCheck

namespace Space

variable {s s' : Space} {q : String} {h : Handle}

/-- Every entity of `s'` that has a name had it already, in the same slot, in `s`, or is the
    entity `h`, named `q`. -/
def AddsName (q : String) (h : Handle) (s s' : Space) : Prop :=
  ∀ h' e' n, s'.get? h' = some e' → e'.name = some n →
    (∃ e, s.get? h' = some e ∧ e.name = some n) ∨ (h' = h ∧ n = q)

theorem AddsNoNames.addsName (hq : AddsNoNames s s') : AddsName q h s s' :=
  fun h' e' n he hn => .inl (hq h' e' n he hn)

theorem AddsName.trans {s₁ s₂ s₃ : Space} (h₁ : AddsName q h s₁ s₂) (h₂ : AddsName q h s₂ s₃) :
    AddsName q h s₁ s₃ := by
  intro h' e' n he hn
  rcases h₂ h' e' n he hn with ⟨e₂, he₂, hn₂⟩ | hnew
  · exact h₁ h' e₂ n he₂ hn₂
  · exact .inr hnew

/-- A class defined under a name is the one entity with a new name. -/
theorem addsName_defineClass {p : Option Handle} (hr : (defineClass (some q) p).run s = .ok h s') :
    AddsName q h s s' := by
  obtain ⟨rfl, rfl⟩ := defineClass_ok hr
  intro h' e' n he hn
  rw [get?_push] at he
  split at he
  · next hs =>
    cases he
    cases hn
    exact .inr ⟨Handle.eq_iff.2 hs, rfl⟩
  · exact .inl ⟨e', he, hn⟩

/-- Naming an entity gives a name to that entity only. -/
theorem addsName_nameConstant (hr : (nameConstant h q).run s = .ok () s') : AddsName q h s s' := by
  cases he : s.get? h with
  | none =>
    rw [nameConstant_run_of_get?_none he] at hr
    cases hr
  | some e =>
    rw [nameConstant_run he] at hr
    cases hr
    split
    · intro h' e' n he' hn
      rw [get?_rename] at he'
      split at he'
      · next hh =>
        subst hh
        obtain ⟨e₀, -, rfl⟩ := Option.map_eq_some_iff.1 he'
        cases hn
        exact .inr ⟨rfl, rfl⟩
      · exact .inl ⟨e', he', hn⟩
    · exact (AddsNoNames.refl s).addsName

end Space
namespace Scope

open Space

/-- Evaluating a text in a scope keeps its constants and names no entity. -/
theorem addsNoNames_evaluateText (sc : Scope) (text : String) :
    AddsNoNames sc.space (sc.evaluateText text).2.space := by
  unfold evaluateText
  cases Expr.parse text with
  | error f => exact .refl _
  | ok e =>
    dsimp only
    rw [evaluate_eq_run, run_space]
    exact Expr.addsNoNames_eval e sc.names sc.space

/-- Every named entity of the scope is bound under its name. -/
def NamesBound (sc : Scope) : Prop :=
  ∀ h e n, sc.space.get? h = some e → e.name = some n → (n, Value.object h) ∈ sc.names.constants

theorem NamesBound.of_addsNoNames {sc sc' : Scope} (hB : sc.NamesBound) (hn : sc'.names = sc.names)
    (hq : AddsNoNames sc.space sc'.space) : sc'.NamesBound := by
  intro h e n he hname
  obtain ⟨e₀, he₀, hn₀⟩ := hq h e n he hname
  rw [hn]
  exact hB h e₀ n he₀ hn₀

/-- The built-in classes are bound under their names. -/
theorem namesBound_start (module : Option String) :
    NamesBound ⟨Space.initial, Namespace.withBuiltins module⟩ := by
  intro h e n he hn
  rw [(Namespace.withBuiltins_perm module).2.mem_iff]
  rw [get?_initial] at he
  obtain ⟨⟨name, sc⟩, hb, rfl⟩ := Option.map_eq_some_iff.1 he
  cases hn
  exact List.mem_map.2 ⟨(n, h), List.mem_map.2 ⟨((n, sc), h.slot),
    List.mk_mem_zipIdx_iff_getElem?.2 hb, rfl⟩, rfl⟩

end Scope
namespace Fixture

open Space Scope

/-- Declaring an entity under `q` names, at most, its new entity, and names it `q`. -/
theorem entityValue_addsName {sc sc₁ : Scope} {q : String} {d : EntityDecl} {h : Handle}
    (hv : entityValue q sc d = (.ok (.object h), sc₁)) : AddsName q h sc.space sc₁.space := by
  cases d with
  | cls name superclass =>
    cases superclass with
    | none =>
      simp only [entityValue] at hv
      rcases hr : sc.run (defineClass (some q) none) with ⟨_ | h', sc''⟩ <;> rw [hr] at hv <;>
        cases hv
      exact addsName_defineClass (run_eq_ok hr).2
    | some text =>
      simp only [entityValue] at hv
      have hq := addsNoNames_evaluateText sc text
      rw [← evaluateClass_snd] at hq
      rcases hc : sc.evaluateClass text with ⟨_ | p, sc'⟩ <;> rw [hc] at hv hq
      · cases hv
      · dsimp only at hv hq
        rcases hr : sc'.run (defineClass (some q) (some p)) with ⟨_ | h', sc''⟩ <;> rw [hr] at hv <;>
          cases hv
        exact hq.addsName.trans (addsName_defineClass (run_eq_ok hr).2)
  | inst name cls =>
    simp only [entityValue] at hv
    have hq := addsNoNames_evaluateText sc cls
    rcases he : sc.evaluateText cls with ⟨_ | c, sc'⟩ <;> rw [he] at hv hq
    · cases hv
    · dsimp only at hv hq
      rcases hi : sc'.run (instantiate c) with ⟨_ | w, sc''⟩ <;> rw [hi] at hv
      · cases hv
      · have hrun₂ := (run_eq_ok hi).2
        have hq₂ := addsNoNames_instantiate c sc'.space
        rw [after_of_ok hrun₂] at hq₂
        obtain ⟨c', h', -, rfl, -⟩ := instantiate_ok hrun₂
        dsimp only at hv
        rcases hnm : sc''.run (nameConstant h' q) with ⟨_ | ⟨⟩, sc'''⟩ <;> rw [hnm] at hv <;>
          cases hv
        exact (hq.trans hq₂).addsName.trans (addsName_nameConstant (run_eq_ok hnm).2)

end Fixture

namespace Scope

open Fixture

/-- One more declaration keeps every name bound: its entity is the one new name, bound by
    the declaration, and the names bound before are kept, as the new name is not one of
    them. -/
theorem NamesBound.declare {origin : String} {sc sc' : Scope} {d : EntityDecl}
    (hB : sc.NamesBound) (hstep : declareEntity origin sc d = .ok sc') : sc'.NamesBound := by
  unfold declareEntity at hstep
  dsimp only at hstep
  split_ifs at hstep with hinv hdup
  rcases hv : entityValue (sc.names.qualify d.name) sc d with ⟨_ | v, sc₁⟩ <;> rw [hv] at hstep
  · cases hstep
  · cases hstep
    obtain ⟨hn₁, h, rfl, -⟩ := entityValue_new hv
    have hfresh : sc.names.qualify d.name ∉ sc.names.constants.map Prod.fst := fun hq =>
      hdup (Namespace.contains_iff.2 hq)
    have hperm : (sc₁.names.define (sc.names.qualify d.name) (.object h)).2.constants.Perm
        ((sc.names.qualify d.name, .object h) :: sc.names.constants) := by
      rw [hn₁]
      exact Namespace.define_perm hfresh
    intro h' e n he hn
    show (n, .object h') ∈ (sc₁.names.define _ _).2.constants
    rw [hperm.mem_iff, List.mem_cons]
    rcases entityValue_addsName hv h' e n he hn with ⟨e₀, he₀, hn₀⟩ | ⟨rfl, rfl⟩
    · exact .inr (hB h' e₀ n he₀ hn₀)
    · exact .inl rfl

/-- Registering an example keeps every name bound: its expected value names nothing. -/
theorem NamesBound.register {origin : String} {acc acc' : Registry Scope × Scope}
    {ex : ExampleDecl} (hB : acc.2.NamesBound) (h : registerExample origin acc ex = .ok acc') :
    acc'.2.NamesBound := by
  unfold registerExample at h
  have hq := addsNoNames_evaluateText acc.2 ex.expected
  have hn := (evaluateText_grows acc.2 ex.expected).1
  rcases he : acc.2.evaluateText ex.expected with ⟨_ | v, sc'⟩ <;> rw [he] at h hq hn
  · cases h
  · cases h
    exact hB.of_addsNoNames hn hq

end Scope

namespace Fixture

open Space Scope

/-- In a fixture that loads, every named entity is bound under its name. -/
theorem LoadedFixture.fromToml_namesBound {text : String} {path : Option String}
    {f : LoadedFixture} (hf : LoadedFixture.fromToml text path = .ok f) : f.scope.NamesBound := by
  obtain ⟨origin, module, entities, examples, sc, hsc, hex⟩ := LoadedFixture.fromToml_steps hf
  -- by induction over the declarations, and then over the examples
  have hB : sc.NamesBound := foldlM_invariant (fun _ _ _ h hB => hB.declare h) entities hsc
    (namesBound_start module)
  exact foldlM_invariant (P := fun acc : Registry Scope × Scope => acc.2.NamesBound)
    (fun _ _ _ h hB => hB.register h) examples hex hB

/-- The declared names are qualified constants, bound once each; with every named entity
    bound under its name, no two entities share a name. -/
theorem Declared.wellNamed {module : Option String} {ds : List EntityDecl} {hs : List Handle}
    {sc : Scope} (hD : Declared module ds hs sc)
    (hmod : ∀ m, module = some m → Expr.isConstantPath m = true) (hB : sc.NamesBound) :
    sc.space.WellNamed where
  qualified h e n he hn := by
    have hkey : n ∈ sc.names.constants.map Prod.fst := List.mem_map_of_mem (f := Prod.fst) (hB h e n he hn)
    rcases List.mem_append.1 (hD.keys.mem_iff.1 hkey) with hb | hd
    · obtain ⟨p, hp, rfl⟩ := List.mem_map.1 hb
      exact Expr.isQualifiedConstant_of_isConstantIdentifier (Namespace.isConstantIdentifier_builtin p hp)
    · obtain ⟨d, hdd, rfl⟩ := List.mem_map.1 hd
      have hvalid := hD.valid d hdd
      unfold Namespace.qualify
      rcases hm : sc.names.module with _ | m
      · exact Expr.isQualifiedConstant_of_isConstantIdentifier hvalid
      · exact Expr.isQualifiedConstant_qualify (hmod m (hD.module ▸ hm)) hvalid
  unique h h' e e' n he he' hn hn' := by
    have h₁ := (Namespace.find?_eq_some_iff hD.keys_nodup).2 (hB h e n he hn)
    have h₂ := (Namespace.find?_eq_some_iff hD.keys_nodup).2 (hB h' e' n he' hn')
    rw [h₁, Option.some.injEq, Value.object.injEq] at h₂
    exact h₂

/-- What every producer does to the context, evaluating expectations one after the other
    does, for a reflexive and transitive relation. -/
theorem evalFrom_rel {C : Type} {R : C → C → Prop} (hrefl : ∀ c, R c c)
    (htrans : ∀ a b c, R a b → R b c → R a c) (es : List (Expectation C))
    (hes : ∀ x ∈ es, ∀ c, R c (x.producer c).2) (capture : Bool) (index : Nat) (c : C) :
    R c (Registry.evalFrom capture es index c).2 := by
  induction es generalizing index c with
  | nil => exact hrefl c
  | cons x es ih =>
    have h₁ : R c (x.evaluate index capture c).2 := by
      rw [Expectation.evaluate_context, Expectation.effect]
      split
      · exact hes x List.mem_cons_self c
      · exact hrefl c
    simp only [Registry.evalFrom]
    rcases hx : x.evaluate index capture c with ⟨_ | o, c'⟩ <;> rw [hx] at h₁
    · exact h₁
    · have h₂ := ih (fun y hy => hes y (List.mem_cons_of_mem x hy)) (index + 1) c'
      dsimp only
      rcases hr : Registry.evalFrom capture es (index + 1) c' with ⟨_ | os, c''⟩ <;>
        rw [hr] at h₂ <;> exact htrans _ _ _ h₁ h₂

/-- An example's producer names nothing. -/
theorem addsNoNames_producerOf (d : String) (sc : Scope) :
    AddsNoNames sc.space (producerOf d sc).2.space := by
  cases he : Expr.parse d with
  | error f =>
    rw [producerOf_of_parse_error he]
    exact .refl _
  | ok e =>
    rw [producerOf_of_parse he]
    have hq := Expr.addsNoNames_eval e sc.names sc.space
    cases hr : (e.eval sc.names).run sc.space with
    | ok v s =>
      rw [after_of_ok hr] at hq
      exact hq
    | error f s =>
      rw [after_of_error hr] at hq
      exact hq

namespace LoadedFixture

theorem addsNoNames_perform {f : LoadedFixture} (hf : f.Sound) (ev : Evaluation) :
    AddsNoNames f.scope.space (ev.perform f).2.scope.space := by
  obtain ⟨os, sc, hr, hp, -⟩ := ev.perform_sound hf
  have hq := evalFrom_rel (R := fun sc sc' : Scope => AddsNoNames sc.space sc'.space)
    (fun sc => .refl sc.space) (fun _ _ _ h₁ h₂ => h₁.trans h₂)
    (f.registry.expectations.take (Evaluation.count f ev))
    (fun x hx sc => by
      rw [(hf.examples x (List.mem_of_mem_take hx)).1]
      exact addsNoNames_producerOf x.description sc) true 0 f.scope
  rw [hr] at hq
  rw [hp]
  exact hq

/-- Runs of a fixture's examples name nothing. -/
theorem addsNoNames_evaluateAll {f : LoadedFixture} (hf : f.Sound) (evs : List Evaluation) :
    AddsNoNames f.scope.space (f.evaluateAll evs).scope.space := by
  induction evs generalizing f with
  | nil => exact .refl _
  | cons ev evs ih =>
    obtain ⟨os, sc, -, hp, hm⟩ := ev.perform_sound hf
    have h₁ := addsNoNames_perform hf ev
    have h₂ := ih (hf.moved hm)
    simp only [evaluateAll, List.foldl_cons, hp] at h₁ h₂ ⊢
    exact h₁.trans h₂

/-- At every point of every sequence of runs of a fixture that loads, the names of its
    space are qualified constants, each naming one entity. -/
theorem evaluateAll_wellNamed {text : String} {path : Option String} {f : LoadedFixture}
    (hf : fromToml text path = .ok f) (evs : List Evaluation) :
    (f.evaluateAll evs).scope.space.WellNamed := by
  obtain ⟨file, hs, -, hmod, hD⟩ := declared_of_fromToml hf
  exact (hD.wellNamed hmod (fromToml_namesBound hf)).of_addsNoNames
    (addsNoNames_evaluateAll (fromToml_sound hf) evs)

end LoadedFixture

end Fixture

end ReflectCheck
