import ReflectCheck.Proofs.Fixture.Sound

/-!
# Evaluating a fixture again

The examples of a fixture share its object space, and evaluating them moves it on: `new`
makes a fresh entity each time, while a singleton class is made on the first request and
found afterwards. Two evaluations of a fixture's examples, the first before the second and
any others before and between them, compare example by example (`Fixture.rerun_agrees`):

* the two outcomes of an example have the same status kind and the same comparison, unless
  the second found the object space exhausted, where an entity that `new` made fresh in the
  first evaluation finds no free slot in the second;
* where the description calls `new` nowhere, or does not parse, the two outcomes are equal,
  so two runs in a row of a fixture without `new` give equal reports.

Each expression is compared with itself evaluated again (`Expr.eval_twin`): the second
evaluation starts in a space grown from where the first ended, so every singleton class
the first made for an entity that both share is there already for the second.

The exception for an exhausted space is needed: an example that makes an instance takes a
slot on every run (`Fixture.evaluateAll_new`), so enough runs fill the space, and then the
example that passed in the first run fails in the next (`Fixture.freshFixture_exhausts_space`).
-/

namespace ReflectCheck

namespace Fixture

open Space

/-- Whether a description is an expression that calls `new`. -/
def callsNew (description : String) : Bool :=
  match Expr.parse description with
  | .ok e => e.calls.contains .new
  | .error _ => false

/-- How the outcomes of one example compare in two evaluations: the same status kind and
    comparison, or else the second found the object space exhausted; and the same outcome
    when the description calls `new` nowhere. -/
def Rerun (description : String) (o₁ o₂ : Outcome) : Prop :=
  ((o₁.status.kind = o₂.status.kind ∧ o₁.comparison = o₂.comparison) ∨
      o₂.status = .fixtureError .exhausted) ∧
    (callsNew description = false → o₁ = o₂)

theorem Rerun.refl (d : String) (o : Outcome) : Rerun d o o := ⟨.inl ⟨rfl, rfl⟩, fun _ => rfl⟩

section Outcomes

variable {x : Expectation Scope} {index : Nat}

/-- Two values that the expected value tells apart alike give the same status and
    comparison. -/
theorem rerun_values {v₁ v₂ : Value} (hiff : x.expected = v₁ ↔ x.expected = v₂)
    (hprim : v₁.isPrimitive = v₂.isPrimitive) (heq : callsNew x.description = false → v₂ = v₁) :
    Rerun x.description
      ⟨index, x.description, if x.expected = v₁ then .pass else .fail,
        some (Comparison.select x.expected v₁), x.expected, some v₁⟩
      ⟨index, x.description, if x.expected = v₂ then .pass else .fail,
        some (Comparison.select x.expected v₂), x.expected, some v₂⟩ := by
  have hsel : Comparison.select x.expected v₁ = Comparison.select x.expected v₂ := by
    simp only [Comparison.select, hprim]
  have hst : (if x.expected = v₁ then Status.pass else .fail) =
      if x.expected = v₂ then Status.pass else .fail := by
    by_cases h : x.expected = v₁
    · rw [if_pos h, if_pos (hiff.1 h)]
    · rw [if_neg h, if_neg (mt hiff.2 h)]
  refine ⟨.inl ⟨by rw [hst], by rw [hsel]⟩, fun hn => ?_⟩
  rw [heq hn]

theorem rerun_faults {f₁ f₂ : Fault} (heq : callsNew x.description = false → f₂ = f₁) :
    Rerun x.description ⟨index, x.description, .fixtureError f₁, none, x.expected, none⟩
      ⟨index, x.description, .fixtureError f₂, none, x.expected, none⟩ :=
  ⟨.inl ⟨rfl, rfl⟩, fun hn => by rw [heq hn]⟩

theorem rerun_exhausted {v : Value} (hnew : callsNew x.description = true) :
    Rerun x.description
      ⟨index, x.description, if x.expected = v then .pass else .fail,
        some (Comparison.select x.expected v), x.expected, some v⟩
      ⟨index, x.description, .fixtureError .exhausted, none, x.expected, none⟩ :=
  ⟨.inr rfl, fun hn => absurd (hnew.symm.trans hn) (by decide)⟩

end Outcomes

theorem callsNew_of_parse {d : String} {e : Expr} (he : Expr.parse d = .ok e) :
    callsNew d = true ↔ Expr.Method.new ∈ e.calls := by
  unfold callsNew
  rw [he, List.contains_iff_mem]

/-- The outcome of a well-formed example whose description parses, from the result of
    evaluating the expression. -/
def parsedOutcome (x : Expectation Scope) (index : Nat) :
    EStateM.Result Fault Space Value → Outcome
  | .ok v _ => ⟨index, x.description, if x.expected = v then .pass else .fail,
      some (Comparison.select x.expected v), x.expected, some v⟩
  | .error f _ => ⟨index, x.description, .fixtureError f, none, x.expected, none⟩

theorem evaluate_of_parse {x : Expectation Scope} {e : Expr}
    (hx : x.producer = producerOf x.description) (hw : x.wellFormed = true)
    (hp : Expr.parse x.description = .ok e) (index : Nat) (sc : Scope) :
    (x.evaluate index true sc).1 = .ok (parsedOutcome x index ((e.eval sc.names).run sc.space)) := by
  cases hr : (e.eval sc.names).run sc.space with
  | ok v s =>
    have hpr : x.producer sc = (.value v, { sc with space := s }) := by
      rw [hx, producerOf_of_parse hp, hr]
    rw [(Expectation.Yields.value hw hpr).evaluate_eq]
    rfl
  | error f s =>
    have hpr : x.producer sc = (.fault f, { sc with space := s }) := by
      rw [hx, producerOf_of_parse hp, hr]
    rw [(Expectation.Yields.fault hw hpr).evaluate_eq]
    rfl

/-- Two results of an example's expression that agree give outcomes that compare. -/
theorem rerun_parsed {x : Expectation Scope} {e : Expr} {L : Nat} {Astar : Space}
    (hnew : callsNew x.description = true ↔ Expr.Method.new ∈ e.calls)
    (hu : ∀ h, x.expected = .object h → h.slot < L) {r₁ r₂ : EStateM.Result Fault Space Value}
    (hag : Agree L Astar (.new ∈ e.calls) (fun _ _ => False) ValLink r₁ r₂) (index : Nat) :
    Rerun x.description (parsedOutcome x index r₁) (parsedOutcome x index r₂) := by
  have hfresh : callsNew x.description = false → Expr.Method.new ∉ e.calls := fun hc h => by
    rw [hnew.2 h] at hc
    cases hc
  rcases r₁ with ⟨v₁, A'⟩ | ⟨f₁, A'⟩ <;> rcases r₂ with ⟨v₂, B'⟩ | ⟨f₂, B'⟩
  · -- fresh answers lie beyond the expected value; without `new`, nothing is fresh
    obtain ⟨R', hT', hl, hR'⟩ := hag
    obtain ⟨hiff, hprim⟩ := hT'.valLink_expected hl hu
    exact rerun_values hiff hprim fun hc =>
      ValLink.eq_of_empty (hR' (hfresh hc) fun _ _ h => h) hl
  · -- a fault after a value: only an exhausted space, and only where `new` is called
    obtain ⟨rfl, hR⟩ := hag
    exact rerun_exhausted (hnew.2 (hR.resolve_right fun ⟨_, _, h⟩ => h))
  · exact hag.elim
  · exact rerun_faults fun hc => (hag (hfresh hc) fun _ _ h => h).symm

/-- One example evaluated in two sound scopes with the same constants, the second in a space
    grown from where the first evaluation ended. -/
theorem evaluate_rerun {x : Expectation Scope} (hx : x.producer = producerOf x.description)
    {sc₁ sc₂ : Scope} {Astar : Space} (hS₁ : sc₁.Sound) (hS₂ : sc₂.Sound)
    (hn : sc₂.names = sc₁.names) (hexp : sc₁.space.LiveValue x.expected) (index : Nat)
    (hpath : Grows (x.evaluate index true sc₁).2.space Astar) (hgrows : Grows Astar sc₂.space)
    {o₁ o₂ : Outcome} (h₁ : (x.evaluate index true sc₁).1 = .ok o₁)
    (h₂ : (x.evaluate index true sc₂).1 = .ok o₂) : Rerun x.description o₁ o₂ := by
  cases hw : x.wellFormed with
  | false =>
    -- a blank description: the same fault in both, and no producer runs
    rw [(Expectation.Yields.blank hw).evaluate_eq] at h₁ h₂
    cases h₁
    cases h₂
    exact Rerun.refl _ _
  | true =>
    cases hp : Expr.parse x.description with
    | error f =>
      -- a description that does not parse: its fault, in both
      have hp₁ : x.producer sc₁ = (.fault f, sc₁) := by rw [hx, producerOf_of_parse_error hp]
      have hp₂ : x.producer sc₂ = (.fault f, sc₂) := by rw [hx, producerOf_of_parse_error hp]
      rw [(Expectation.Yields.fault hw hp₁).evaluate_eq] at h₁
      rw [(Expectation.Yields.fault hw hp₂).evaluate_eq] at h₂
      cases h₁
      cases h₂
      exact Rerun.refl _ _
    | ok e =>
      -- the expression, evaluated side by side from spaces with nothing fresh yet
      have hpath' : Grows (after (e.eval sc₁.names) sc₁.space) Astar := by
        rw [Expectation.evaluate_context, Expectation.effect, if_pos hw, hx,
          producerOf_of_parse hp] at hpath
        unfold after
        cases hr : (e.eval sc₁.names).run sc₁.space <;> rw [hr] at hpath <;> exact hpath
      have hT := twin_start hS₁.wellFormed hS₂.wellFormed
        ((Expr.eval_grows e _ _).trans hpath') hgrows hS₂.fits
      have hu : ∀ h, x.expected = .object h → h.slot < sc₁.space.size := fun h hh => by
        rw [hh] at hexp
        exact hexp
      rw [evaluate_of_parse hx hw hp] at h₁
      rw [evaluate_of_parse hx hw hp, hn] at h₂
      cases h₁
      cases h₂
      exact rerun_parsed (callsNew_of_parse hp) hu (Expr.eval_twin hT (hS₁.start hp) hpath') index

/-- The examples evaluated by both of two evaluations, each in the scope the examples
    before it left, by induction over the examples. -/
theorem evalFrom_rerun (es : List (Expectation Scope)) {k₁ k₂ index : Nat} {sc₁ sc₂ : Scope}
    (hes : ∀ x ∈ es, x.producer = producerOf x.description ∧ sc₁.space.LiveValue x.expected)
    (hS₁ : sc₁.Sound) (hS₂ : sc₂.Sound) (hn : sc₂.names = sc₁.names)
    (hgrows : Grows (Registry.evalFrom true (es.take k₁) index sc₁).2.space sc₂.space)
    {os₁ os₂ : List Outcome} (h₁ : (Registry.evalFrom true (es.take k₁) index sc₁).1 = .ok os₁)
    (h₂ : (Registry.evalFrom true (es.take k₂) index sc₂).1 = .ok os₂) (j : Nat)
    (x : Expectation Scope) (o₁ o₂ : Outcome) (hx : es[j]? = some x) (ho₁ : os₁[j]? = some o₁)
    (ho₂ : os₂[j]? = some o₂) : Rerun x.description o₁ o₂ := by
  induction es generalizing k₁ k₂ index sc₁ sc₂ os₁ os₂ j with
  | nil => simp at hx
  | cons y es ih =>
    cases k₁ with
    | zero =>
      cases h₁
      simp at ho₁
    | succ k₁ =>
      cases k₂ with
      | zero =>
        cases h₂
        simp at ho₂
      | succ k₂ =>
        obtain ⟨hy, hexp⟩ := hes y List.mem_cons_self
        obtain ⟨o₁', os₁', sc₁', he₁, ht₁, hc₁⟩ :=
          Registry.evalFrom_true_cons y (es.take k₁) index sc₁
        obtain ⟨o₂', os₂', sc₂', he₂, ht₂, hc₂⟩ :=
          Registry.evalFrom_true_cons y (es.take k₂) index sc₂
        rw [List.take_succ_cons, hc₁] at hgrows h₁
        rw [List.take_succ_cons, hc₂] at h₂
        cases h₁
        cases h₂
        have hm₁ := moves_evaluate hy hS₁ index true
        have hm₂ := moves_evaluate hy hS₂ index true
        rw [he₁] at hm₁
        rw [he₂] at hm₂
        cases j with
        | zero =>
          -- the first example, from the scopes the evaluations started in
          have hend : Moves sc₁' (Registry.evalFrom true (es.take k₁) (index + 1) sc₁').2 :=
            evalFrom_moves
              (fun z hz => (hes z (List.mem_cons_of_mem y (List.mem_of_mem_take hz))).1)
              hm₁.sound true (index + 1)
          cases hx
          cases ho₁
          cases ho₂
          exact evaluate_rerun hy hS₁ hS₂ hn hexp index (by rw [he₁]; exact hend.grows) hgrows
            (by rw [he₁]) (by rw [he₂])
        | succ j =>
          -- a later example, from the scopes the first one left
          exact ih (fun z hz => ⟨(hes z (List.mem_cons_of_mem y hz)).1,
              (hes z (List.mem_cons_of_mem y hz)).2.mono hm₁.grows.size_le⟩)
            hm₁.sound hm₂.sound (hm₂.names.trans (hn.trans hm₁.names.symm))
            (hgrows.trans hm₂.grows) ht₁ ht₂ j hx ho₁ ho₂

theorem run_report (f : LoadedFixture) : f.run.1 = RunReport.ofOutcomes f.run.1.outcomes := by
  unfold LoadedFixture.run
  rcases f.registry.run f.scope with ⟨_ | os, sc⟩ <;> rfl

/-- Two evaluations of a sound fixture, the first before the second and any others between
    them, compare example by example. -/
theorem perform_rerun {g : LoadedFixture} (hg : g.Sound) (ev₁ : Evaluation)
    (between : List Evaluation) (ev₂ : Evaluation) (j : Nat) (x : Expectation Scope)
    (o₁ o₂ : Outcome) (hx : g.registry.expectations[j]? = some x)
    (ho₁ : (ev₁.perform g).1[j]? = some o₁)
    (ho₂ : (ev₂.perform ((ev₁.perform g).2.evaluateAll between)).1[j]? = some o₂) :
    Rerun x.description o₁ o₂ := by
  obtain ⟨os₁, end₁, hr₁, hp₁, hm₁⟩ := ev₁.perform_sound hg
  rw [hp₁] at ho₁ ho₂
  -- the evaluations between move the scope on from where the first one left it
  obtain ⟨hS₂, hreg₂, hm₂⟩ := LoadedFixture.evaluateAll_sound (hg.moved hm₁) between
  obtain ⟨os₂, end₂, hr₂, hp₂, -⟩ := ev₂.perform_sound hS₂
  rw [hp₂] at ho₂
  rw [hreg₂] at hr₂
  exact evalFrom_rerun g.registry.expectations hg.examples hg.sound hS₂.sound
    (hm₂.names.trans hm₁.names) (by rw [hr₁]; exact hm₂.grows) (by rw [hr₁]) (by rw [hr₂])
    j x o₁ o₂ hx ho₁ ho₂

/-- Two runs in a row of a sound fixture whose descriptions call `new` nowhere give equal
    reports. -/
theorem run_run {g : LoadedFixture} (hg : g.Sound)
    (hnone : ∀ x ∈ g.registry.expectations, callsNew x.description = false) :
    g.run.1 = g.run.2.run.1 := by
  have hg₁ : g.run.2.Sound := (LoadedFixture.evaluateAll_sound hg [.all]).1
  have hreg₁ : g.run.2.registry = g.registry := (LoadedFixture.evaluateAll_sound hg [.all]).2.1
  have hl₁ : g.run.1.outcomes.length = g.registry.size := LoadedFixture.length_perform_all hg
  have hl₂ : g.run.2.run.1.outcomes.length = g.registry.size := by
    rw [← hreg₁]
    exact LoadedFixture.length_perform_all hg₁
  rw [run_report g, run_report g.run.2]
  congr 1
  -- outcome by outcome: as many in both runs, and the same one for each example
  apply List.ext_getElem?
  intro j
  by_cases hj : j < g.registry.size
  · obtain ⟨x, hx⟩ : ∃ x, g.registry.expectations[j]? = some x :=
      ⟨_, List.getElem?_eq_getElem hj⟩
    have hj₁ : j < g.run.1.outcomes.length := by rw [hl₁]; exact hj
    have hj₂ : j < g.run.2.run.1.outcomes.length := by rw [hl₂]; exact hj
    have hr := perform_rerun hg .all [] .all j x _ _ hx (List.getElem?_eq_getElem hj₁)
      (List.getElem?_eq_getElem hj₂)
    rw [List.getElem?_eq_getElem hj₁, List.getElem?_eq_getElem hj₂,
      hr.2 (hnone x (List.mem_of_getElem? hx))]
  · rw [List.getElem?_eq_none (by omega), List.getElem?_eq_none (by omega)]

/-- Evaluating a loaded fixture again. Of two evaluations of its examples, each every example
    or the first `k`, the first before the second and any others before and between them,
    every example evaluated by both gets outcomes with the same status kind and comparison,
    unless the second found the object space exhausted; and the same outcome when its
    description calls `new` nowhere. Two runs in a row of a fixture none of whose
    descriptions calls `new` give equal reports. -/
theorem rerun_agrees {text : String} {path : Option String} {f : LoadedFixture}
    (hf : LoadedFixture.fromToml text path = .ok f) (before : List Evaluation) (ev₁ : Evaluation)
    (between : List Evaluation) (ev₂ : Evaluation) :
    (∀ (j : Nat) (x : Expectation Scope) (o₁ o₂ : Outcome),
      f.registry.expectations[j]? = some x →
      (ev₁.perform (f.evaluateAll before)).1[j]? = some o₁ →
      (ev₂.perform ((ev₁.perform (f.evaluateAll before)).2.evaluateAll between)).1[j]? =
        some o₂ →
      Rerun x.description o₁ o₂) ∧
    ((∀ x ∈ f.registry.expectations, callsNew x.description = false) →
      (f.evaluateAll before).run.1 = (f.evaluateAll before).run.2.run.1) := by
  obtain ⟨hS, hreg, -⟩ := LoadedFixture.evaluateAll_sound (LoadedFixture.fromToml_sound hf) before
  refine ⟨fun j x o₁ o₂ hx => perform_rerun hS ev₁ between ev₂ j x o₁ o₂ (by rw [hreg]; exact hx),
    fun hnone => run_run hS ?_⟩
  rw [hreg]
  exact hnone

/-- A fixture whose examples make singleton classes on the way but call `new` nowhere. -/
def singletonFixture : String :=
  "name = \"singletons\"\n\n[[examples]]\ndescription = \"Object.singleton_class.superclass\"\n" ++
    "expected = \"BasicObject.singleton_class\"\n\n[[examples]]\ndescription = \"Object.superclass\"\n" ++
    "expected = \"BasicObject\"\n"

/-- Two runs in a row of the fixture give equal reports. -/
theorem singletonFixture_runs_again :
    ∃ f, LoadedFixture.fromToml singletonFixture none = .ok f ∧ f.run.1 = f.run.2.run.1 := by
  -- the text loads, and none of its examples calls new
  have hnew : (match LoadedFixture.fromToml singletonFixture none with
      | .ok f => f.registry.expectations.all fun x => !callsNew x.description
      | .error _ => false) = true := by decide +kernel
  cases hf : LoadedFixture.fromToml singletonFixture none with
  | error e =>
    rw [hf] at hnew
    exact absurd hnew Bool.false_ne_true
  | ok f =>
    rw [hf] at hnew
    refine ⟨f, rfl, (rerun_agrees hf [] .all [] .all).2 ?_⟩
    simpa using hnew

/-! ### Runs that fill the space

An example that makes a new instance takes a fresh slot on every run, so enough runs fill the
object space, and the next run finds no slot for its instance: the exception that `Rerun` makes
for an exhausted space does occur. -/

/-- Making an instance of a class other than `Class` and asking for its class answers that
    class, with the instance in the next slot, unless the space is full. -/
theorem eval_new_cls_run {ns : Namespace} {e : Expr} {path : List String} {c : Handle}
    {s : Space} {ec : Entity} (hr : e.receiver = .constant path) (hcalls : e.calls = [.new, .cls])
    (hres : ns.resolve path = .ok (.object c)) (hc : s.get? c = some ec) (hk : ec.kind.isClass)
    (hcc : c ≠ .classClass) :
    (e.eval ns).run s =
      if s.size < capacity then .ok (.object c) (s.push ⟨.inst c, none, none⟩)
      else .error .exhausted s := by
  have hnew : (newInstance c).run s =
      if s.size < capacity then .ok ⟨s.size⟩ (s.push ⟨.inst c, none, none⟩)
      else .error .exhausted s := by
    rw [newInstance_run hcc hc, if_pos hk, allocate_run]
  simp only [Expr.eval, hr, hcalls, hres, Expr.applyAll, Expr.Method.apply, EStateM.run_bind,
    EStateM.run_pure, instantiate_run_object]
  by_cases hs : s.size < capacity
  · rw [if_pos hs] at hnew ⊢
    simp only [run_map_ok _ hnew, classOf_run_object (get?_push_size s ⟨.inst c, none, none⟩)]
  · rw [if_neg hs] at hnew ⊢
    simp only [run_map_error _ hnew]

/-- A run of a fixture with one example, whose description parses: the example's outcome, and
    the space moved on as its expression moves it. -/
theorem perform_all_single {g : LoadedFixture} {x : Expectation Scope} {e : Expr}
    (hg : g.registry.expectations = [x]) (hcap : g.registry.capturePanics = true)
    (hx : x.producer = producerOf x.description) (hw : x.wellFormed = true)
    (hp : Expr.parse x.description = .ok e) :
    Evaluation.all.perform g =
      ([parsedOutcome x 0 ((e.eval g.scope.names).run g.scope.space)],
        { g with scope := { g.scope with space := after (e.eval g.scope.names) g.scope.space } }) := by
  have hev : x.evaluate 0 true g.scope = (.ok (parsedOutcome x 0 ((e.eval g.scope.names).run
      g.scope.space)), { g.scope with space := after (e.eval g.scope.names) g.scope.space }) := by
    refine Prod.ext (evaluate_of_parse hx hw hp 0 g.scope) ?_
    rw [Expectation.evaluate_context, Expectation.effect, if_pos hw, hx, producerOf_of_parse hp]
    cases hr : (e.eval g.scope.names).run g.scope.space with
    | ok v s => rw [after_of_ok hr]
    | error f s => rw [after_of_error hr]
  rw [Evaluation.perform_eq, hcap]
  simp only [Evaluation.count, Registry.size, hg, List.length_singleton, List.take_succ_cons,
    List.take_zero, Registry.evalFrom, hev]

section Filling

variable {x : Expectation Scope} {e : Expr} {path : List String} {c : Handle} {ec : Entity}
  (hx : x.producer = producerOf x.description) (hw : x.wellFormed = true)
  (hp : Expr.parse x.description = .ok e) (hr : e.receiver = .constant path)
  (hcalls : e.calls = [.new, .cls]) (hk : ec.kind.isClass) (hcc : c ≠ .classClass)
include hx hw hp hr hcalls hk hcc

/-- One run of a fixture whose one example makes an instance of a class `c` and asks for its
    class: the example's outcome, and the space with the new instance, or else the outcome
    of a full space, and the fixture as it was. -/
theorem perform_new {g : LoadedFixture} (hg : g.registry.expectations = [x])
    (hcap : g.registry.capturePanics = true) (hres : g.scope.names.resolve path = .ok (.object c))
    (hc : g.scope.space.get? c = some ec) :
    Evaluation.all.perform g =
      if g.scope.space.size < capacity then
        ([parsedOutcome x 0 (.ok (.object c) (g.scope.space.push ⟨.inst c, none, none⟩))],
          { g with scope := { g.scope with space := g.scope.space.push ⟨.inst c, none, none⟩ } })
      else ([parsedOutcome x 0 (.error .exhausted g.scope.space)], g) := by
  have hrun := eval_new_cls_run hr hcalls hres hc hk hcc
  rw [perform_all_single hg hcap hx hw hp]
  by_cases hs : g.scope.space.size < capacity
  · rw [if_pos hs] at hrun ⊢
    rw [after_of_ok hrun, hrun]
  · rw [if_neg hs] at hrun ⊢
    rw [after_of_error hrun, hrun]

/-- Runs, one after the other, of a fixture whose one example makes an instance of a class `c`
    and asks for its class: each takes one slot, as long as slots are free, and keeps the
    examples, the constants and the class. -/
theorem evaluateAll_new (n : Nat) {g : LoadedFixture} (hg : g.registry.expectations = [x])
    (hcap : g.registry.capturePanics = true) (hres : g.scope.names.resolve path = .ok (.object c))
    (hc : g.scope.space.get? c = some ec) (hroom : g.scope.space.size + n ≤ capacity) :
    (g.evaluateAll (List.replicate n .all)).registry = g.registry ∧
      (g.evaluateAll (List.replicate n .all)).scope.names = g.scope.names ∧
      (g.evaluateAll (List.replicate n .all)).scope.space.size = g.scope.space.size + n ∧
      (g.evaluateAll (List.replicate n .all)).scope.space.get? c = some ec := by
  induction n generalizing g with
  | zero => exact ⟨rfl, rfl, rfl, hc⟩
  | succ n ih =>
    -- the first run makes one instance; the others run from the fixture it leaves
    rw [List.replicate_succ, LoadedFixture.evaluateAll, List.foldl_cons, ← LoadedFixture.evaluateAll,
      perform_new hx hw hp hr hcalls hk hcc hg hcap hres hc, if_pos (by omega)]
    obtain ⟨hreg, hnames, hsize, hkeep⟩ :=
      @ih { g with scope := { g.scope with space := g.scope.space.push ⟨.inst c, none, none⟩ } }
        hg hcap hres (get?_push_of_get? hc _) (by rw [size_push]; omega)
    exact ⟨hreg, hnames, by rw [hsize, size_push]; omega, hkeep⟩

end Filling

/-- A fixture whose one example makes an instance of `Object` and asks for its class. -/
def freshFixture : String :=
  "name = \"fresh\"\n\n[[examples]]\ndescription = \"Object.new.class\"\nexpected = \"Object\"\n"

/-- Evaluating a fixture again can change the status kind of an outcome, once the space is
    full: the first run of the fixture passes its example, and after as many runs as there are
    slots left, the next run finds no free slot for the example's new instance. -/
theorem freshFixture_exhausts_space :
    ∃ f, LoadedFixture.fromToml freshFixture none = .ok f ∧
      ∃ (x : Expectation Scope) (o₁ o₂ : Outcome), f.registry.expectations[0]? = some x ∧
        (Evaluation.all.perform f).1[0]? = some o₁ ∧
        (Evaluation.all.perform ((Evaluation.all.perform f).2.evaluateAll
          (List.replicate (capacity - builtinCount - 1) .all))).1[0]? = some o₂ ∧
        o₁.status = .pass ∧ o₂.status = .fixtureError .exhausted := by
  -- the text loads: one example, `Object` bound to its class, a fresh space
  have hload : (LoadedFixture.fromToml freshFixture none).toOption.map (fun f =>
      f.registry.expectations.map (fun x => (x.description, x.expected)) ==
          [("Object.new.class", .object .object)] &&
        (f.scope.names.resolve ["Object"]).toOption == some (.object .object) &&
        f.scope.space.size == builtinCount &&
        f.scope.space.get? .object == some ⟨.cls (some .basicObject), some "Object", none⟩) =
      some true := by decide +kernel
  have hparse : (Expr.parse "Object.new.class").toOption.map (fun e =>
      e.receiver == .constant ["Object"] && e.calls == [.new, .cls]) = some true := by
    decide +kernel
  cases hf : LoadedFixture.fromToml freshFixture none with
  | error err =>
    rw [hf] at hload
    cases hload
  | ok f =>
    rw [hf] at hload
    simp only [Except.toOption, Option.map_some, Option.some.injEq, Bool.and_eq_true,
      beq_iff_eq] at hload
    obtain ⟨⟨⟨hexs, hres⟩, hsize⟩, hobj⟩ := hload
    obtain ⟨x, hxs, hxd⟩ := List.map_eq_singleton_iff.1 hexs
    simp only [Prod.mk.injEq] at hxd
    obtain ⟨hd, hexp⟩ := hxd
    have hres' : f.scope.names.resolve ["Object"] = .ok (.object .object) := by
      revert hres
      cases f.scope.names.resolve ["Object"] with
      | ok v =>
        intro h
        cases h
        rfl
      | error _ =>
        intro h
        cases h
    cases hpe : Expr.parse "Object.new.class" with
    | error _ =>
      rw [hpe] at hparse
      cases hparse
    | ok e =>
      rw [hpe] at hparse
      simp only [Except.toOption, Option.map_some, Option.some.injEq, Bool.and_eq_true,
        beq_iff_eq] at hparse
      obtain ⟨hr, hcalls⟩ := hparse
      have hS := LoadedFixture.fromToml_sound hf
      have hx : x.producer = producerOf x.description := (hS.examples x (by rw [hxs]; simp)).1
      have hw : x.wellFormed = true := by
        rw [Expectation.wellFormed, hd]
        decide +kernel
      have hp : Expr.parse x.description = .ok e := by rw [hd, hpe]
      -- the first run passes, and leaves `Object` and one more slot in use
      have hp₁ := perform_new hx hw hp hr hcalls rfl (by decide) hxs hS.capture hres' hobj
      rw [if_pos (by rw [hsize]; decide)] at hp₁
      -- the runs between fill the space
      have hg₁ : (Evaluation.all.perform f).2.registry.expectations = [x] := by rw [hp₁]; exact hxs
      have hcap₁ : (Evaluation.all.perform f).2.registry.capturePanics = true := by
        rw [hp₁]
        exact hS.capture
      have hres₁ : (Evaluation.all.perform f).2.scope.names.resolve ["Object"] =
          .ok (.object .object) := by
        rw [hp₁]
        exact hres'
      have hobj₁ : (Evaluation.all.perform f).2.scope.space.get? .object =
          some ⟨.cls (some .basicObject), some "Object", none⟩ := by
        rw [hp₁]
        exact get?_push_of_get? hobj _
      have hsize₁ : (Evaluation.all.perform f).2.scope.space.size = builtinCount + 1 := by
        rw [hp₁]
        simp only [size_push, hsize]
      obtain ⟨hreg₂, hnames₂, hsize₂, hobj₂⟩ :=
        evaluateAll_new hx hw hp hr hcalls rfl (by decide) (capacity - builtinCount - 1) hg₁
          hcap₁ hres₁ hobj₁ (by rw [hsize₁]; decide)
      -- and the next run finds no free slot
      have hres₂ : ((Evaluation.all.perform f).2.evaluateAll
          (List.replicate (capacity - builtinCount - 1) .all)).scope.names.resolve ["Object"] =
          .ok (.object .object) := by
        rw [hnames₂]
        exact hres₁
      have hp₂ := perform_new hx hw hp hr hcalls rfl (by decide) (by rw [hreg₂]; exact hg₁)
        (by rw [hreg₂]; exact hcap₁) hres₂ hobj₂
      rw [if_neg (by rw [hsize₂, hsize₁]; decide)] at hp₂
      refine ⟨f, rfl, x, _, _, by rw [hxs]; rfl, by rw [hp₁]; rfl, by rw [hp₂]; rfl, ?_, rfl⟩
      show (if x.expected = _ then _ else _) = _
      rw [if_pos hexp]

end Fixture

end ReflectCheck
