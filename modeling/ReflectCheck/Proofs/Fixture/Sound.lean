import ReflectCheck.Fixture.Load
import ReflectCheck.Proofs.Expr.Replay
import ReflectCheck.Proofs.Registry.Run

/-!
# Sound fixtures

What loading a fixture establishes and evaluating its examples keeps: a well-formed object
space within its capacity, constants bound to values of the space, and examples that each
evaluate their own description, with an expected value of the space.

* `Scope.Sound`: the scope part of it;
* `LoadedFixture.fromToml_sound`: every fixture that loads is sound
  (`LoadedFixture.Sound`), by induction over its declarations and its examples;
* `Registry.evalFrom_moves`: evaluating examples keeps the constants and grows the space,
  and so keeps the fixture sound (`Evaluation.perform_sound`).
-/

namespace ReflectCheck

open Space

/-! ### Constants -/

namespace Namespace

theorem mem_of_find? {ns : Namespace} {n : String} {v : Value} (h : ns.find? n = some v) :
    ∃ n', (n', v) ∈ ns.constants := by
  unfold find? at h
  obtain ⟨p, hp, rfl⟩ := Option.map_eq_some_iff.1 h
  exact ⟨p.1, List.mem_of_find?_eq_some hp⟩

/-- A constant resolves to a value bound in the namespace. -/
theorem mem_of_resolve {ns : Namespace} {path : List String} {v : Value}
    (h : ns.resolve path = .ok v) : ∃ n, (n, v) ∈ ns.constants := by
  unfold resolve at h
  simp only at h
  split at h
  · rename_i w hw
    cases h
    obtain ⟨m, -, hm⟩ := Option.bind_eq_some_iff.1 hw
    exact mem_of_find? hm
  · split at h
    · rename_i w hw
      cases h
      exact mem_of_find? hw
    · cases h

theorem mem_insertSorted {name : String} {v : Value} {l : List (String × Value)}
    {p : String × Value} (hp : p ∈ insertSorted name v l) : p = (name, v) ∨ p ∈ l := by
  induction l with
  | nil => exact .inl (List.mem_singleton.1 hp)
  | cons q l ih =>
    simp only [insertSorted] at hp
    split_ifs at hp
    · exact (List.mem_cons.1 hp).imp_right id
    · rcases List.mem_cons.1 hp with rfl | hp
      · exact .inl rfl
      · exact .inr (List.mem_cons_of_mem q hp)
    · rcases List.mem_cons.1 hp with rfl | hp
      · exact .inr List.mem_cons_self
      · exact (ih hp).imp_right (List.mem_cons_of_mem q)

/-- The built-in constants are bound to the built-in classes. -/
theorem builtin_of_mem_withBuiltins (module : Option String) {p : String × Value}
    (hp : p ∈ (withBuiltins module).constants) :
    ∃ h : Handle, p.2 = .object h ∧ h.slot < builtinCount := by
  have hb : ∀ q ∈ Space.builtinConstants, q.2.slot < builtinCount := by decide
  -- every binding made along the fold, from the empty namespace on, is a built-in class
  suffices key : ∀ (l : List (String × Handle)) (ns : Namespace),
      (∀ q ∈ l, q.2.slot < builtinCount) →
      (∀ p ∈ ns.constants, ∃ h : Handle, p.2 = .object h ∧ h.slot < builtinCount) →
      ∀ p ∈ (l.foldl (fun ns (q : String × Handle) => (ns.define q.1 (.object q.2)).2)
        ns).constants, ∃ h : Handle, p.2 = .object h ∧ h.slot < builtinCount from
    key _ _ hb (fun _ h => by cases h) p hp
  intro l
  induction l with
  | nil => exact fun _ _ hns => hns
  | cons q l ih =>
    intro ns hl hns
    refine ih _ (fun q' hq' => hl q' (List.mem_cons_of_mem q hq')) fun p hp => ?_
    rcases mem_insertSorted hp with rfl | hp
    · exact ⟨q.2, rfl, hl q List.mem_cons_self⟩
    · exact hns p hp

end Namespace

/-! ### Sound scopes -/

namespace Scope

/-- A well-formed space within its capacity, and constants bound to values of it. -/
structure Sound (sc : Scope) : Prop where
  wellFormed : sc.space.WellFormed
  fits : sc.space.Fits
  names : ∀ p ∈ sc.names.constants, sc.space.LiveValue p.2

theorem Sound.resolve {sc : Scope} (hS : sc.Sound) {path : List String} {v : Value}
    (h : sc.names.resolve path = .ok v) : sc.space.LiveValue v := by
  obtain ⟨n, hn⟩ := Namespace.mem_of_resolve h
  exact hS.names _ hn

/-- The calls of a parsed expression start from a value of the space. -/
theorem Sound.start {sc : Scope} (hS : sc.Sound) {d : String} {e : Expr}
    (he : Expr.parse d = .ok e) (v : Value) (hv : e.receiver.value sc.names = .ok v) :
    sc.space.LiveValue v := by
  cases hr : e.receiver with
  | literal w =>
    rw [hr] at hv
    cases hv
    have hw := Expr.parse_literal he hr
    cases v with
    | object h => cases hw
    | _ => trivial
  | constant path =>
    rw [hr] at hv
    exact hS.resolve hv

/-- Growing the space, within its capacity, keeps a scope sound. -/
theorem Sound.grow {sc : Scope} (hS : sc.Sound) {s : Space} (hg : Grows sc.space s)
    (hf : s.Fits) : ({ sc with space := s } : Scope).Sound where
  wellFormed := hg.wellFormed hS.wellFormed
  fits := hf
  names p hp := (hS.names p hp).mono hg.size_le

theorem Sound.perform {sc : Scope} (hS : sc.Sound) (c : Call) :
    ({ sc with space := c.perform sc.space } : Scope).Sound where
  wellFormed := hS.wellFormed.perform c
  fits := hS.fits.perform c
  names p hp := (hS.names p hp).mono (c.perform_extends sc.space).size_le

theorem run_space {α : Type} (sc : Scope) (m : SpaceM α) :
    (sc.run m).2 = { sc with space := after m sc.space } := by
  unfold run after
  cases m.run sc.space <;> rfl

theorem run_ok {α : Type} {sc : Scope} {m : SpaceM α} {a : α} (h : (sc.run m).1 = .ok a) :
    m.run sc.space = .ok a (after m sc.space) := by
  unfold run at h
  cases hm : m.run sc.space with
  | ok b s =>
    rw [hm] at h
    cases h
    rw [after_of_ok hm]
  | error f s =>
    rw [hm] at h
    cases h

theorem evaluate_eq_run (sc : Scope) (e : Expr) : sc.evaluate e = sc.run (e.eval sc.names) := by
  unfold evaluate run
  cases (e.eval sc.names).run sc.space <;> rfl

/-- What a step of loading keeps of a sound scope: it stays sound, with the same constants
    and no smaller space, and its answer, if any, is of the space. -/
structure Keeps {α : Type} (live : Space → α → Prop) (sc : Scope)
    (r : Except Fault α × Scope) : Prop where
  sound : r.2.Sound
  names : r.2.names = sc.names
  size_le : sc.space.size ≤ r.2.space.size
  live : ∀ a, r.1 = .ok a → live r.2.space a

/-- A call made in a sound scope. -/
theorem keeps_run {α : Type} {live : Space → α → Prop} {sc : Scope} (hS : sc.Sound)
    {m : SpaceM α} (c : Call) (hc : after m = c.perform)
    (hlive : ∀ a, (sc.run m).1 = .ok a → live (after m sc.space) a) :
    Keeps live sc (sc.run m) := by
  have hsp := run_space sc m
  refine ⟨?_, ?_, ?_, ?_⟩
  · rw [hsp, hc]
    exact hS.perform c
  · rw [hsp]
  · rw [hsp, hc]
    exact (c.perform_extends sc.space).size_le
  · rw [hsp]
    exact hlive

theorem keeps_evaluateText {sc : Scope} (hS : sc.Sound) (text : String) :
    Keeps LiveValue sc (sc.evaluateText text) := by
  unfold evaluateText
  cases he : Expr.parse text with
  | error f => exact ⟨hS, rfl, Nat.le_refl _, fun _ h => by cases h⟩
  | ok e =>
    simp only
    rw [evaluate_eq_run]
    have hsp := run_space sc (e.eval sc.names)
    refine ⟨?_, ?_, ?_, fun v hv => ?_⟩
    · rw [hsp]
      exact hS.grow (Expr.eval_grows e _ _) (Expr.eval_fits e _ hS.fits)
    · rw [hsp]
    · rw [hsp]
      exact (Expr.eval_grows e _ _).size_le
    · rw [hsp]
      exact Expr.eval_live hS.wellFormed (hS.start he) (run_ok hv)

/-- A step that ends in a fault keeps what it kept, whatever it was to answer. -/
theorem Keeps.fault {α β : Type} {live : Space → α → Prop} {live' : Space → β → Prop}
    {sc sc' : Scope} {f : Fault} (h : Keeps live sc (.error f, sc')) :
    Keeps live' sc (.error f, sc') :=
  ⟨h.sound, h.names, h.size_le, fun _ ha => by cases ha⟩

theorem keeps_evaluateClass {sc : Scope} (hS : sc.Sound) (text : String) :
    Keeps Live sc (sc.evaluateClass text) := by
  have hk := keeps_evaluateText hS text
  unfold evaluateClass
  rcases hr : sc.evaluateText text with ⟨_ | v, sc'⟩ <;> rw [hr] at hk
  · exact hk.fault
  · cases v with
    | object h => exact ⟨hk.sound, hk.names, hk.size_le, fun _ ha => by
        cases ha
        exact hk.live _ rfl⟩
    | _ => exact ⟨hk.sound, hk.names, hk.size_le, fun _ h => by cases h⟩

theorem Keeps.trans {α β : Type} {live : Space → α → Prop} {live' : Space → β → Prop}
    {sc : Scope} {r : Except Fault α × Scope} {r' : Except Fault β × Scope}
    (h : Keeps live sc r) (h' : Keeps live' r.2 r') : Keeps live' sc r' :=
  ⟨h'.sound, h'.names.trans h.names, Nat.le_trans h.size_le h'.size_le, h'.live⟩

end Scope

/-! ### Loading -/

namespace Fixture

open Scope

/-- Defining a class in a scope that a sound one led to. -/
theorem keeps_defineClass {sc sc' sc'' : Scope} {p : Option Handle} {r : Except Fault Handle}
    (hk : Keeps (fun _ _ => True) sc (.ok p, sc')) (q : String)
    (hr : sc'.run (defineClass (some q) p) = (r, sc'')) :
    Keeps LiveValue sc (r.map Value.object, sc'') := by
  have hd := keeps_run hk.sound (Call.defineClass (some q) p) rfl
    fun h hh => defineClass_live (run_ok hh)
  rw [hr] at hd
  cases r with
  | error f => exact hk.trans hd.fault
  | ok h => exact hk.trans ⟨hd.sound, hd.names, hd.size_le, fun _ ha => by
      cases ha
      exact hd.live h rfl⟩

/-- Declaring an entity keeps a scope sound and gives a value of its space. -/
theorem keeps_entityValue {sc : Scope} (hS : sc.Sound) (q : String) (d : EntityDecl) :
    Keeps LiveValue sc (entityValue q sc d) := by
  cases d with
  | cls name superclass =>
    -- the superclass first, then the class below it in the scope the superclass left
    cases superclass with
    | none =>
      simp only [entityValue]
      rcases hr : sc.run (defineClass (some q) none) with ⟨_ | _, sc''⟩ <;>
        exact keeps_defineClass ⟨hS, rfl, Nat.le_refl _, fun _ _ => trivial⟩ q hr
    | some text =>
      have hk := keeps_evaluateClass hS text
      simp only [entityValue]
      rcases hc : sc.evaluateClass text with ⟨_ | h, sc'⟩ <;> rw [hc] at hk
      · exact hk.fault
      · dsimp only
        rcases hr : sc'.run (defineClass (some q) (some h)) with ⟨_ | _, sc''⟩ <;>
          exact keeps_defineClass ⟨hk.sound, hk.names, hk.size_le, fun _ _ => trivial⟩ q hr
  | inst name cls =>
    have hk := keeps_evaluateText hS cls
    simp only [entityValue]
    rcases hc : sc.evaluateText cls with ⟨_ | c, sc₁⟩ <;> rw [hc] at hk
    · exact hk.fault
    · dsimp only
      have hi := keeps_run hk.sound (Call.instantiate c) rfl fun w hw =>
        Expr.Method.apply_live .new hk.sound.wellFormed (hk.live c rfl) (run_ok hw)
      rcases hr : sc₁.run (instantiate c) with ⟨_ | v, sc₂⟩ <;> rw [hr] at hi <;> dsimp only
      · exact hk.trans hi.fault
      · cases v with
        | object h =>
          -- naming the new instance keeps the space as large as it was
          dsimp only
          have hn : Keeps (fun _ _ => True) sc₂ (sc₂.run (nameConstant h q)) :=
            keeps_run hi.sound (Call.nameConstant h q) rfl fun _ _ => trivial
          have hv : sc₂.space.LiveValue (.object h) := hi.live _ rfl
          rcases hr₂ : sc₂.run (nameConstant h q) with ⟨_ | u, sc₃⟩ <;> rw [hr₂] at hn <;>
            dsimp only
          · exact hk.trans (hi.trans hn.fault)
          · exact hk.trans (hi.trans ⟨hn.sound, hn.names, hn.size_le, fun _ ha => by
              cases ha
              exact hv.mono hn.size_le⟩)
        | _ => exact hk.trans ⟨hi.sound, hi.names, hi.size_le, fun _ ha => by
            cases ha
            exact hi.live _ rfl⟩

theorem declareEntity_sound {origin : String} {sc sc' : Scope} {d : EntityDecl}
    (hS : sc.Sound) (h : declareEntity origin sc d = .ok sc') : sc'.Sound := by
  unfold declareEntity at h
  dsimp only at h
  split_ifs at h
  have hk := keeps_entityValue hS (sc.names.qualify d.name) d
  rcases hv : entityValue (sc.names.qualify d.name) sc d with ⟨_ | v, sc₁⟩
  · rw [hv] at h
    cases h
  · rw [hv] at h hk
    cases h
    -- the new constant is bound to the declared value, the others as before
    refine ⟨hk.sound.wellFormed, hk.sound.fits, fun p hp => ?_⟩
    rcases Namespace.mem_insertSorted hp with rfl | hp
    · exact hk.live v rfl
    · exact hk.sound.names p hp

/-- A registry of examples that each evaluate their own description, with panics captured
    and expected values of the space of a sound scope. -/
structure Registered (r : Registry Scope) (sc : Scope) : Prop where
  sound : sc.Sound
  capture : r.capturePanics = true
  examples : ∀ x ∈ r.expectations,
    x.producer = producerOf x.description ∧ sc.space.LiveValue x.expected

theorem registerExample_registered {origin : String} {acc acc' : Registry Scope × Scope}
    {ex : ExampleDecl} (hR : Registered acc.1 acc.2) (h : registerExample origin acc ex = .ok acc') :
    Registered acc'.1 acc'.2 := by
  unfold registerExample at h
  have hk := keeps_evaluateText hR.sound ex.expected
  rcases he : acc.2.evaluateText ex.expected with ⟨_ | v, sc'⟩ <;> rw [he] at h hk
  · cases h
  · cases h
    refine ⟨hk.sound, hR.capture, fun x hx => ?_⟩
    rcases List.mem_append.1 hx with hx | hx
    · -- an example registered before: its expected value is still in the grown space
      obtain ⟨hp, hl⟩ := hR.examples x hx
      exact ⟨hp, hl.mono hk.size_le⟩
    · rw [List.mem_singleton.1 hx]
      exact ⟨rfl, hk.live v rfl⟩

/-- A fold of steps that each keep an invariant keeps it. -/
theorem foldlM_invariant {ε α β : Type} {P : β → Prop} {f : β → α → Except ε β}
    (hf : ∀ b a b', f b a = .ok b' → P b → P b') :
    ∀ (l : List α) {b b' : β}, l.foldlM f b = .ok b' → P b → P b'
  | [], _, _, h, hb => by
    cases h
    exact hb
  | a :: l, b, _, h, hb => by
    rw [List.foldlM_cons] at h
    obtain ⟨b₁, h₁, h⟩ := Expr.except_bind_eq_ok h
    exact foldlM_invariant hf l h (hf b a b₁ h₁ hb)

theorem initial_sound (module : Option String) :
    Scope.Sound ⟨Space.initial, Namespace.withBuiltins module⟩ where
  wellFormed := wellFormed_initial
  fits := fits_initial
  names p hp := by
    obtain ⟨h, hh, hb⟩ := Namespace.builtin_of_mem_withBuiltins module hp
    rw [hh]
    exact wellFormed_initial.live_builtin hb

namespace LoadedFixture

/-- A fixture whose examples are registered in its sound scope. -/
def Sound (f : LoadedFixture) : Prop := Registered f.registry f.scope

/-- A fixture that loads is its file's entities declared, in a fresh space with the built-in
    classes bound, and then its examples registered. -/
theorem fromToml_steps {text : String} {path : Option String} {f : LoadedFixture}
    (h : fromToml text path = .ok f) :
    ∃ (origin : String) (module : Option String) (entities : List EntityDecl)
      (examples : List ExampleDecl) (sc : Scope),
      entities.foldlM (declareEntity origin) ⟨Space.initial, Namespace.withBuiltins module⟩ =
        .ok sc ∧
      examples.foldlM (registerExample origin) (Registry.empty, sc) = .ok (f.registry, f.scope) := by
  unfold fromToml at h
  simp only [pure_bind] at h
  -- past the checks of the name and the module, the declarations and then the examples
  split at h
  · split at h
    · cases h
    · split at h
      · split at h
        · cases h
        all_goals
          obtain ⟨sc, hsc, h⟩ := Expr.except_bind_eq_ok h
          obtain ⟨rs, hrs, h⟩ := Expr.except_bind_eq_ok h
          cases h
          exact ⟨_, _, _, _, sc, hsc, hrs⟩
      all_goals
        obtain ⟨sc, hsc, h⟩ := Expr.except_bind_eq_ok h
        obtain ⟨rs, hrs, h⟩ := Expr.except_bind_eq_ok h
        cases h
        exact ⟨_, _, _, _, sc, hsc, hrs⟩
  · cases h

/-- Every fixture that loads is sound. -/
theorem fromToml_sound {text : String} {path : Option String} {f : LoadedFixture}
    (h : fromToml text path = .ok f) : f.Sound := by
  obtain ⟨origin, module, entities, examples, sc, hsc, hex⟩ := fromToml_steps h
  -- by induction over the declarations, and then over the examples
  have hS : sc.Sound :=
    foldlM_invariant (fun _ _ _ h hS => declareEntity_sound hS h) entities hsc (initial_sound module)
  exact foldlM_invariant (fun _ _ _ h hR => registerExample_registered hR h) examples hex
    ⟨hS, rfl, fun _ hx => by cases hx⟩

end LoadedFixture

/-! ### Evaluating the examples -/

/-- A scope moved on by evaluating examples: the same constants, in a space grown from its
    own, and still sound. -/
structure Moves (sc sc' : Scope) : Prop where
  names : sc'.names = sc.names
  grows : Grows sc.space sc'.space
  sound : sc'.Sound

theorem Moves.refl {sc : Scope} (hS : sc.Sound) : Moves sc sc := ⟨rfl, .refl _, hS⟩

theorem Moves.trans {sc₁ sc₂ sc₃ : Scope} (h₁ : Moves sc₁ sc₂) (h₂ : Moves sc₂ sc₃) :
    Moves sc₁ sc₃ :=
  ⟨h₂.names.trans h₁.names, h₁.grows.trans h₂.grows, h₂.sound⟩

/-- An example's producer, for a description that parses: the value of the expression, or
    its fault, in the space the evaluation leaves. -/
theorem producerOf_of_parse {d : String} {e : Expr} (he : Expr.parse d = .ok e) (sc : Scope) :
    producerOf d sc =
      match (e.eval sc.names).run sc.space with
      | .ok v s => (.value v, { sc with space := s })
      | .error f s => (.fault f, { sc with space := s }) := by
  unfold producerOf Scope.evaluate
  rw [he]
  dsimp only
  cases (e.eval sc.names).run sc.space <;> rfl

theorem producerOf_of_parse_error {d : String} {f : Fault} (he : Expr.parse d = .error f)
    (sc : Scope) : producerOf d sc = (.fault f, sc) := by
  unfold producerOf
  rw [he]

theorem moves_producerOf {sc : Scope} (hS : sc.Sound) (d : String) : Moves sc (producerOf d sc).2 := by
  cases he : Expr.parse d with
  | error f =>
    rw [producerOf_of_parse_error he]
    exact .refl hS
  | ok e =>
    rw [producerOf_of_parse he]
    have hg := Expr.eval_grows e sc.names sc.space
    have hf := Expr.eval_fits e sc.names hS.fits
    cases hr : (e.eval sc.names).run sc.space with
    | ok v s =>
      rw [after_of_ok hr] at hg hf
      exact ⟨rfl, hg, hS.grow hg hf⟩
    | error f s =>
      rw [after_of_error hr] at hg hf
      exact ⟨rfl, hg, hS.grow hg hf⟩

theorem moves_evaluate {x : Expectation Scope} (hx : x.producer = producerOf x.description)
    {sc : Scope} (hS : sc.Sound) (index : Nat) (capture : Bool) :
    Moves sc (x.evaluate index capture sc).2 := by
  rw [Expectation.evaluate_context, Expectation.effect]
  split
  · rw [hx]
    exact moves_producerOf hS _
  · exact .refl hS

/-- Evaluating examples, one after the other, moves the scope on. -/
theorem evalFrom_moves {es : List (Expectation Scope)}
    (hes : ∀ x ∈ es, x.producer = producerOf x.description) {sc : Scope} (hS : sc.Sound)
    (capture : Bool) (index : Nat) : Moves sc (Registry.evalFrom capture es index sc).2 := by
  induction es generalizing sc index with
  | nil => exact .refl hS
  | cons x es ih =>
    have h₁ := moves_evaluate (hes x List.mem_cons_self) hS index capture
    simp only [Registry.evalFrom]
    rcases hx : x.evaluate index capture sc with ⟨_ | o, sc'⟩ <;> rw [hx] at h₁
    · exact h₁
    · have h₂ := ih (fun y hy => hes y (List.mem_cons_of_mem x hy)) h₁.sound (index + 1)
      dsimp only
      rcases hr : Registry.evalFrom capture es (index + 1) sc' with ⟨_ | os, sc''⟩ <;>
        rw [hr] at h₂ <;> exact h₁.trans h₂

/-- What holds of each example's outcome, in the space its evaluation leaves from a scope
    that `sc₀` moves to, and survives the growth of the space, holds of every outcome of
    examples evaluated one after the other, in the space the last one leaves. -/
theorem evalFrom_forall {P : Space → Outcome → Prop}
    (hP : ∀ {s s' : Space} {o : Outcome}, P s o → s.size ≤ s'.size → P s' o)
    {es : List (Expectation Scope)} (hes : ∀ x ∈ es, x.producer = producerOf x.description)
    {sc₀ : Scope} (hstep : ∀ x ∈ es, ∀ {sc sc' : Scope} {index : Nat} {o : Outcome},
      Moves sc₀ sc → x.evaluate index true sc = (.ok o, sc') → P sc'.space o)
    {sc : Scope} (hm : Moves sc₀ sc) (index : Nat) {os : List Outcome}
    (h : (Registry.evalFrom true es index sc).1 = .ok os) :
    ∀ o ∈ os, P (Registry.evalFrom true es index sc).2.space o := by
  induction es generalizing sc index os with
  | nil =>
    cases h
    intro o ho
    cases ho
  | cons x es ih =>
    obtain ⟨o₁, os₁, sc₁, he, hos, hc⟩ := Registry.evalFrom_true_cons x es index sc
    rw [hc] at h ⊢
    cases h
    have hes' : ∀ y ∈ es, y.producer = producerOf y.description :=
      fun y hy => hes y (List.mem_cons_of_mem x hy)
    have hm₁ := moves_evaluate (hes x List.mem_cons_self) hm.sound index true
    rw [he] at hm₁
    have hm₂ := evalFrom_moves hes' hm₁.sound true (index + 1)
    intro o ho
    rcases List.mem_cons.1 ho with rfl | ho
    · -- the first example, in the space it left, which the rest only grow
      exact hP (hstep x List.mem_cons_self hm he) hm₂.grows.size_le
    · exact ih hes' (fun y hy => hstep y (List.mem_cons_of_mem x hy)) (hm.trans hm₁)
        (index + 1) hos o ho


/-- An evaluation of a fixture's examples: every one of them, as `run` does, or the first
    `k`, as `take k` does. -/
inductive Evaluation where
  | all
  | first (k : Nat)

namespace Evaluation

/-- The outcomes of an evaluation, and the fixture it leaves. -/
def perform : Evaluation → LoadedFixture → List Outcome × LoadedFixture
  | .all, f => ((f.run).1.outcomes, (f.run).2)
  | .first k, f => f.take k

/-- How many examples an evaluation asks for. -/
def count (f : LoadedFixture) : Evaluation → Nat
  | .all => f.registry.size
  | .first k => k

theorem perform_eq (ev : Evaluation) (f : LoadedFixture) :
    ev.perform f =
      match Registry.evalFrom f.registry.capturePanics
          (f.registry.expectations.take (count f ev)) 0 f.scope with
      | (.ok os, sc) => (os, { f with scope := sc })
      | (.error _, sc) => ([], { f with scope := sc }) := by
  cases ev with
  | all =>
    simp only [perform, count, Registry.size, List.take_length]
    unfold LoadedFixture.run Registry.run
    rcases Registry.evalFrom f.registry.capturePanics f.registry.expectations 0 f.scope with
      ⟨_ | os, sc⟩ <;> rfl
  | first k => rfl

/-- An evaluation of a sound fixture: an outcome for each example it asks for, from the
    start of the registry; and the same fixture, its scope moved on. -/
theorem perform_sound {f : LoadedFixture} (hf : f.Sound) (ev : Evaluation) :
    ∃ os sc, Registry.evalFrom true (f.registry.expectations.take (count f ev)) 0 f.scope =
        (.ok os, sc) ∧ ev.perform f = (os, { f with scope := sc }) ∧ Moves f.scope sc := by
  obtain ⟨os, hos, -⟩ := Registry.evalFrom_ok (f.registry.expectations.take (count f ev)) 0 f.scope
  have hm : Moves f.scope
      (Registry.evalFrom true (f.registry.expectations.take (count f ev)) 0 f.scope).2 :=
    evalFrom_moves (fun x hx => (hf.examples x (List.mem_of_mem_take hx)).1) hf.sound true 0
  rcases hr : Registry.evalFrom true (f.registry.expectations.take (count f ev)) 0 f.scope with
    ⟨r, sc⟩
  rw [hr] at hos hm
  subst hos
  refine ⟨os, sc, rfl, ?_, hm⟩
  rw [perform_eq, hf.capture, hr]

end Evaluation

namespace LoadedFixture

/-- A sound fixture with its scope moved on is sound: its expected values are still in the
    grown space. -/
theorem Sound.moved {f : LoadedFixture} (hf : f.Sound) {sc : Scope} (hm : Moves f.scope sc) :
    ({ f with scope := sc } : LoadedFixture).Sound :=
  ⟨hm.sound, hf.capture, fun x hx => ⟨(hf.examples x hx).1,
    (hf.examples x hx).2.mono hm.grows.size_le⟩⟩

/-- The fixture that evaluations, one after the other, leave. -/
def evaluateAll (f : LoadedFixture) (evs : List Evaluation) : LoadedFixture :=
  evs.foldl (fun f ev => (ev.perform f).2) f

/-- A sound fixture stays sound through evaluations, with the same registry and its scope
    moved on. -/
theorem evaluateAll_sound {f : LoadedFixture} (hf : f.Sound) (evs : List Evaluation) :
    (f.evaluateAll evs).Sound ∧ (f.evaluateAll evs).registry = f.registry ∧
      Moves f.scope (f.evaluateAll evs).scope := by
  induction evs generalizing f with
  | nil => exact ⟨hf, rfl, .refl hf.sound⟩
  | cons ev evs ih =>
    obtain ⟨os, sc, -, hp, hm⟩ := ev.perform_sound hf
    obtain ⟨h₁, h₂, h₃⟩ := ih (hf.moved hm)
    simp only [evaluateAll, List.foldl_cons, hp] at h₁ h₂ h₃ ⊢
    exact ⟨h₁, h₂, hm.trans h₃⟩

/-- Every example of a sound fixture has an outcome in a run. -/
theorem length_perform_all {f : LoadedFixture} (hf : f.Sound) :
    (Evaluation.all.perform f).1.length = f.registry.size := by
  obtain ⟨os, sc, hr, hp, -⟩ := Evaluation.all.perform_sound hf
  obtain ⟨os', hos, hlen⟩ :=
    Registry.evalFrom_ok (f.registry.expectations.take (Evaluation.count f .all)) 0 f.scope
  rw [hr] at hos
  cases hos
  rw [hp, hlen]
  simp [Evaluation.count, Registry.size]

end LoadedFixture

end Fixture

end ReflectCheck
