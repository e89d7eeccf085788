import ReflectCheck.Proofs.Fixture.Sound
import ReflectCheck.Proofs.Expr.Grammar

/-!
# Faults an example can meet

A loaded fixture binds its constants to primitives and entities of its space, and each
reflective operation answers such a value with another one (`Fixture.fromToml_sound`,
`Expr.Method.apply_live`). So the examples of a fixture fault only for reasons that their
own text gives (`Fault.isTextual`): a blank description, an expression that does not parse,
an unknown constant, or a method that the receiver does not support. The one other fault is
an exhausted space, which an operation raises only when the space has no free slot left. A
dangling handle, a value of the wrong kind and a panic never occur.

* `Expr.Method.apply_explained`: one call on a value of a well-formed space faults only
  with an unsupported method or an exhausted space, which it leaves full
  (`Fault.Explained`);
* `Fixture.evalFrom_explained`: so do the outcomes of examples evaluated in a sound scope,
  by induction over the examples, with the space the last one leaves;
* `Fixture.outcome_faults_textual`: every fault of every evaluation of a loaded fixture,
  while its space has a free slot, is one its text accounts for.
-/

namespace ReflectCheck

namespace Fault

/-- Whether the text of an example accounts for the fault: a blank description, an
    expression that does not parse, an unknown constant, or a method that the receiver does
    not support. -/
def isTextual : Fault → Bool
  | .missingDescription | .unparsable _ _ | .unknownEntity _ | .unsupported _ _ => true
  | .typeMismatch _ _ | .panicked _ | .dangling _ | .exhausted => false

/-- A fault that a computation leaving the space `s` may end with: one the text accounts
    for, or an exhausted space, which `s` then is. -/
def Explained (s : Space) (f : Fault) : Prop :=
  f.isTextual = true ∨ (f = .exhausted ∧ Space.capacity ≤ s.size)

theorem Explained.mono {s s' : Space} {f : Fault} (h : f.Explained s) (hle : s.size ≤ s'.size) :
    f.Explained s' :=
  h.imp_right fun ⟨hf, hc⟩ => ⟨hf, Nat.le_trans hc hle⟩

theorem explained_exhausted {s : Space} (hs : ¬ s.size < Space.capacity) :
    Fault.exhausted.Explained s :=
  .inr ⟨rfl, Nat.le_of_not_lt hs⟩

end Fault

/-! ### One operation -/

namespace Space

variable {s s' : Space} {f : Fault}

theorem allocate_explained {k : Kind} {n : Option String}
    (hr : (allocate k n).run s = .error f s') : f.Explained s' := by
  rw [allocate_run] at hr
  split at hr
  · cases hr
  · cases hr
    exact Fault.explained_exhausted ‹_›

theorem singletonClass_explained {h : Handle} (hh : s.Live h)
    (hr : (singletonClass h).run s = .error f s') : f.Explained s' := by
  obtain ⟨e, he⟩ := live_iff_get?.1 hh
  cases ht : e.singleton with
  | some t =>
    rw [singletonClass_run_of_some he ht] at hr
    cases hr
  | none =>
    rw [singletonClass_run_of_none he ht] at hr
    split at hr
    · cases hr
    · cases hr
      exact Fault.explained_exhausted ‹_›

/-- The superclass of an entity: an instance has none, and a singleton class may have to
    make the singleton class of an ancestor. -/
theorem superclassOfHandle_explained (hw : s.WellFormed) {h : Handle} (hh : s.Live h)
    (hr : (superclassOfHandle h).run s = .error f s') : f.Explained s' := by
  -- strong induction on the slot, as the recursion goes to the attached entity, before it
  induction hn : h.slot using Nat.strongRecOn generalizing h s s' f with
  | ind n ih =>
    obtain ⟨e, he⟩ := live_iff_get?.1 hh
    cases hk : e.kind with
    | cls sc =>
      rw [superclassOfHandle_run_cls he hk] at hr
      cases hr
    | inst c =>
      rw [superclassOfHandle_run_inst he hk] at hr
      cases hr
      exact .inl rfl
    | single a =>
      obtain ⟨hlt, ea, ha, -⟩ := (hw.slot h e he).attached a hk
      by_cases hinst : ∃ c, ea.kind = .inst c
      · obtain ⟨c, hc⟩ := hinst
        rw [superclassOfHandle_run_single_inst he hk ha hc] at hr
        cases hr
      · have hka : ∀ c, ea.kind ≠ .inst c := fun c hc => hinst ⟨c, hc⟩
        rw [superclassOfHandle_run_single he hk ha hka hlt] at hr
        cases hra : (superclassOfHandle a).run s with
        | error g s₁ =>
          rw [hra] at hr
          cases hr
          exact ih a.slot (hn ▸ hlt) hw (get?_lt ha) hra rfl
        | ok ra s₁ =>
          rw [hra] at hr
          cases ra with
          | none => cases hr
          | some q =>
            -- the singleton class of the superclass of the attached entity
            dsimp only at hr
            have hq : s₁.Live q := superclassOfHandle_live hw hra q rfl
            cases hq' : (singletonClass q).run s₁ with
            | ok t s₂ =>
              rw [run_map_ok _ hq'] at hr
              cases hr
            | error g s₂ =>
              rw [run_map_error _ hq'] at hr
              cases hr
              exact singletonClass_explained hq hq'

/-- A class made by `new` on `Class` goes below `Object`, a class other than `Class`. -/
theorem defineClass_object_explained (hw : s.WellFormed) {n : Option String}
    (hr : (defineClass n none).run s = .error f s') : f.Explained s' := by
  obtain ⟨e, he, hk, -⟩ := hw.builtins 1 "Object" (some Handle.basicObject) rfl
  have he' : s.get? ((none : Option Handle).getD .object) = some e := he
  have hok : e.kind.isClass ∧ (none : Option Handle).getD .object ≠ .classClass :=
    ⟨by rw [hk]; rfl, by decide⟩
  rw [defineClass_run he', if_pos hok] at hr
  exact allocate_explained hr

theorem newInstance_explained (hw : s.WellFormed) {c : Handle} (hc : s.Live c)
    (hr : (newInstance c).run s = .error f s') : f.Explained s' := by
  by_cases hcc : c = .classClass
  · subst hcc
    rw [newInstance_run_classClass] at hr
    exact defineClass_object_explained hw hr
  · obtain ⟨e, he⟩ := live_iff_get?.1 hc
    rw [newInstance_run hcc he] at hr
    split at hr
    · exact allocate_explained hr
    · cases hr
      exact .inl rfl

end Space

namespace Namespace

/-- A constant path fails to resolve only as an unknown constant. -/
theorem resolve_error {ns : Namespace} {path : List String} {f : Fault}
    (h : ns.resolve path = .error f) : f = .unknownEntity ("::".intercalate path) := by
  unfold resolve at h
  simp only at h
  split at h
  · cases h
  · split at h
    · cases h
    · cases h
      rfl

end Namespace

namespace Expr

open Space

variable {s s' : Space} {f : Fault}

namespace Method

/-- On a primitive, a method answers with the built-in class of the value or refuses it. -/
theorem apply_primitive_explained (m : Method) {v : Value} (hv : v.handle? = none)
    (hr : (m.apply v).run s = .error f s') : f.Explained s' := by
  cases v with
  | object h => cases hv
  | bool b => cases b <;> cases m <;> cases hr <;> exact .inl rfl
  | _ => cases m <;> cases hr <;> exact .inl rfl

/-- In a well-formed space, a method applied to a value of the space faults only with a
    method the value does not support, or with an exhausted space, which it leaves full. -/
theorem apply_explained (m : Method) (hw : s.WellFormed) {v : Value} (hv : s.LiveValue v)
    (hr : (m.apply v).run s = .error f s') : f.Explained s' := by
  cases hh : v.handle? with
  | none => exact m.apply_primitive_explained hh hr
  | some h =>
    obtain rfl : v = .object h := by
      cases v with
      | object h' => cases hh; rfl
      | _ => cases hh
    obtain ⟨e, he⟩ := live_iff_get?.1 hv
    cases m with
    | cls =>
      rw [apply, classOf_run_object he] at hr
      cases hr
    | superclass =>
      rw [apply, superclassOf_run_object] at hr
      cases hs : (superclassOfHandle h).run s with
      | ok r s₁ =>
        rw [hs] at hr
        cases hr
      | error g s₁ =>
        rw [hs] at hr
        cases hr
        exact superclassOfHandle_explained hw hv hs
    | singletonClass =>
      rw [apply, identityDescriptor_run_object] at hr
      cases hs : (Space.singletonClass h).run s with
      | ok t s₁ =>
        rw [run_map_ok _ hs] at hr
        cases hr
      | error g s₁ =>
        rw [run_map_error _ hs] at hr
        cases hr
        exact singletonClass_explained hv hs
    | new =>
      rw [apply, instantiate_run_object] at hr
      cases hs : (newInstance h).run s with
      | ok t s₁ =>
        rw [run_map_ok _ hs] at hr
        cases hr
      | error g s₁ =>
        rw [run_map_error _ hs] at hr
        cases hr
        exact newInstance_explained hw hv hs
    | name =>
      rw [apply, nameOf_run_object he] at hr
      cases hk : e.kind <;> rw [hk] at hr <;> cases hr
      exact .inl rfl

end Method

/-- A chain of calls on a value of a well-formed space, by induction on the chain: each call
    answers with a value of the space it leaves, which the next call starts from. -/
theorem applyAll_explained (ms : List Method) (hw : s.WellFormed) {v : Value}
    (hv : s.LiveValue v) (hr : (applyAll ms v).run s = .error f s') : f.Explained s' := by
  induction ms generalizing v s with
  | nil => cases hr
  | cons m ms ih =>
    rw [applyAll_cons, EStateM.run_bind] at hr
    cases hm : (m.apply v).run s with
    | ok u s₁ =>
      rw [hm] at hr
      have hg := m.after_apply_grows v s
      rw [after_of_ok hm] at hg
      exact ih (hg.wellFormed hw) (m.apply_live hw hv hm) hr
    | error g s₁ =>
      rw [hm] at hr
      cases hr
      exact m.apply_explained hw hv hm

theorem eval_explained {e : Expr} {ns : Namespace} (hw : s.WellFormed)
    (hstart : ∀ v, e.receiver.value ns = .ok v → s.LiveValue v)
    (hr : (e.eval ns).run s = .error f s') : f.Explained s' := by
  rw [eval_run] at hr
  cases hv : e.receiver.value ns with
  | ok v =>
    rw [hv] at hr
    exact applyAll_explained e.calls hw (hstart v hv) hr
  | error g =>
    rw [hv] at hr
    cases hr
    -- a literal always starts the calls; a constant fails only when it is bound nowhere
    cases hrec : e.receiver with
    | literal w =>
      rw [hrec] at hv
      cases hv
    | constant path =>
      rw [hrec] at hv
      rw [Namespace.resolve_error hv]
      exact .inl rfl

end Expr

/-! ### Examples -/

namespace Fixture

open Scope

/-- The producer of an example never panics: it gives the value of its description, or a
    fault. -/
theorem producerOf_value_or_fault (d : String) (sc : Scope) :
    (∃ v, (producerOf d sc).1 = .value v) ∨ ∃ f, (producerOf d sc).1 = .fault f := by
  cases he : Expr.parse d with
  | error f =>
    rw [producerOf_of_parse_error he]
    exact .inr ⟨f, rfl⟩
  | ok e =>
    rw [producerOf_of_parse he]
    cases (e.eval sc.names).run sc.space with
    | ok v s => exact .inl ⟨v, rfl⟩
    | error f s => exact .inr ⟨f, rfl⟩

theorem producerOf_explained {sc sc' : Scope} (hS : sc.Sound) {d : String} {f : Fault}
    (hp : producerOf d sc = (.fault f, sc')) : f.Explained sc'.space := by
  cases he : Expr.parse d with
  | error g =>
    rw [producerOf_of_parse_error he] at hp
    cases hp
    obtain ⟨reason, rfl⟩ := Expr.parse_error he
    exact .inl rfl
  | ok e =>
    rw [producerOf_of_parse he] at hp
    cases hr : (e.eval sc.names).run sc.space with
    | ok v s =>
      rw [hr] at hp
      cases hp
    | error g s =>
      rw [hr] at hp
      cases hp
      exact Expr.eval_explained hS.wellFormed (hS.start he) hr

/-- An example of a sound scope faults only as its text or an exhausted space explains. -/
theorem evaluate_explained {x : Expectation Scope} (hx : x.producer = producerOf x.description)
    {sc sc' : Scope} (hS : sc.Sound) (index : Nat) {o : Outcome}
    (he : x.evaluate index true sc = (.ok o, sc')) {f : Fault}
    (hf : o.status = .fixtureError f) : f.Explained sc'.space := by
  have hy := x.evaluate_yields index true sc
  rw [he] at hy
  cases hy with
  | blank _ =>
    cases hf
    exact .inl rfl
  | value _ _ => split at hf <;> cases hf
  | fault _ hp =>
    cases hf
    rw [hx] at hp
    exact producerOf_explained hS hp
  | captured _ hp _ =>
    -- a panic would have to come from the producer, which gives a value or a fault
    rw [hx] at hp
    rcases producerOf_value_or_fault x.description sc with ⟨v, hv⟩ | ⟨g, hg⟩
    · rw [hp] at hv
      cases hv
    · rw [hp] at hg
      cases hg

/-- The outcomes of examples evaluated one after the other in a sound scope fault only as
    their text or an exhausted space explains, in the space the last example leaves. -/
theorem evalFrom_explained {es : List (Expectation Scope)}
    (hes : ∀ x ∈ es, x.producer = producerOf x.description) {sc : Scope} (hS : sc.Sound)
    (index : Nat) {os : List Outcome} (h : (Registry.evalFrom true es index sc).1 = .ok os) :
    ∀ o ∈ os, ∀ f, o.status = .fixtureError f →
      f.Explained (Registry.evalFrom true es index sc).2.space :=
  evalFrom_forall (P := fun s o => ∀ f, o.status = .fixtureError f → f.Explained s)
    (fun hex hle f hf => (hex f hf).mono hle) hes
    (fun x hx _ _ index _ hm he _ hf => evaluate_explained (hes x hx) hm.sound index he hf)
    (.refl hS) index h

open LoadedFixture in
/-- The faults of a loaded fixture's examples. In every evaluation of its examples, every
    one of them or the first `k`, after any number of others, and while its space has a free
    slot, an example faults only with a blank description, an expression that does not
    parse, an unknown constant or a method that its receiver does not support: never with a
    dangling handle, a value of the wrong kind, a panic or an exhausted space. Throughout,
    every constant and every expected value is a primitive or an entity of the space. -/
theorem outcome_faults_textual {text : String} {path : Option String} {f : LoadedFixture}
    (hf : fromToml text path = .ok f) (before : List Evaluation) (ev : Evaluation)
    (hfree : (ev.perform (f.evaluateAll before)).2.scope.space.size < Space.capacity) :
    (∀ o ∈ (ev.perform (f.evaluateAll before)).1, ∀ fault,
      o.status = .fixtureError fault → fault.isTextual = true) ∧
    (∀ p ∈ (ev.perform (f.evaluateAll before)).2.scope.names.constants,
      (ev.perform (f.evaluateAll before)).2.scope.space.LiveValue p.2) ∧
    (∀ x ∈ (ev.perform (f.evaluateAll before)).2.registry.expectations,
      (ev.perform (f.evaluateAll before)).2.scope.space.LiveValue x.expected) := by
  obtain ⟨hS, -, -⟩ := evaluateAll_sound (fromToml_sound hf) before
  obtain ⟨os, sc, hr, hp, hm⟩ := ev.perform_sound hS
  have hS' := hS.moved hm
  rw [hp] at hfree ⊢
  refine ⟨fun o ho fault hfault => ?_, hS'.sound.names, fun x hx => (hS'.examples x hx).2⟩
  have hex := evalFrom_explained (fun x hx => (hS.examples x (List.mem_of_mem_take hx)).1)
    hS.sound 0 (by rw [hr]) o ho fault hfault
  rw [hr] at hex
  -- an exhausted space would be full, and the space left has a free slot
  exact hex.resolve_right fun hc => Nat.not_le.2 hfree hc.2

/-- A fixture whose examples meet each fault of its text: a method an instance does not
    support, an unknown constant, a method that does not exist, a blank description, and the
    superclass of an instance. -/
def faultyFixture : String :=
  "name = \"faults\"\n\n[[entities]]\nkind = \"class\"\nname = \"A\"\n\n" ++
    "[[entities]]\nkind = \"instance\"\nname = \"AInstance\"\nclass = \"A\"\n\n" ++
    "[[examples]]\ndescription = \"AInstance.name\"\nexpected = \"nil\"\n\n" ++
    "[[examples]]\ndescription = \"Missing\"\nexpected = \"nil\"\n\n" ++
    "[[examples]]\ndescription = \"A.frobnicate\"\nexpected = \"A\"\n\n" ++
    "[[examples]]\ndescription = \"  \"\nexpected = \"nil\"\n\n" ++
    "[[examples]]\ndescription = \"A.new.superclass\"\nexpected = \"A\"\n"

/-- The fixture loads, and a run of it leaves a free slot: its faults are all textual. -/
theorem faultyFixture_faults_textual :
    ∃ f, LoadedFixture.fromToml faultyFixture none = .ok f ∧
      (Evaluation.all.perform f).2.scope.space.size < Space.capacity ∧
      ∀ o ∈ (Evaluation.all.perform f).1, ∀ fault,
        o.status = .fixtureError fault → fault.isTextual = true := by
  -- the text loads, and one run leaves the space far from full
  have hfree : (match LoadedFixture.fromToml faultyFixture none with
      | .ok f => decide ((Evaluation.all.perform f).2.scope.space.size < Space.capacity)
      | .error _ => false) = true := by decide +kernel
  cases hf : LoadedFixture.fromToml faultyFixture none with
  | error e =>
    rw [hf] at hfree
    exact absurd hfree Bool.false_ne_true
  | ok f =>
    rw [hf] at hfree
    have hlt := of_decide_eq_true hfree
    exact ⟨f, rfl, hlt, (outcome_faults_textual hf [] .all hlt).1⟩

end Fixture

end ReflectCheck
