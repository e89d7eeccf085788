import ReflectCheck.Proofs.Namespace.Bindings
import ReflectCheck.Proofs.Fixture.Sound

/-!
# Declared entities

Loading a fixture declares its entities one after the other, from a fresh scope. Each
declaration makes a new entity, a class defined under the qualified name or a new instance
of a class named after the constant if it is an anonymous class, and binds the qualified
name to it, unless the name is not a constant identifier or is bound already.

`Fixture.Declared` is what the declarations made so far leave in the scope: the built-in
classes and one binding per declaration, to new entities distinct from each other and from
the built-in classes, each named after its constant if it is a class. Every declaration
keeps it (`Fixture.Declared.declare`), and so does evaluating the expected values of the
examples, which only grows the space (`Fixture.Declared.moves`).

* `Fixture.Declared.evaluate`: the bare and the qualified name of a declaration both
  evaluate to its entity, the latter because no name bound is the module twice over;
* `Fixture.LoadedFixture.fromToml_declares`: a fixture that loads binds exactly the built-in
  classes and its declarations, as above; and a load fails for a duplicate exactly when the
  first declaration that fails has a valid name that is bound already.
-/

namespace ReflectCheck

namespace Space

/-! ### New entities -/

/-- Every entity of `s` is in `s'`, of the same kind and with the same name. -/
def KeepsNames (s s' : Space) : Prop :=
  ∀ h e, s.get? h = some e → ∃ e', s'.get? h = some e' ∧ e'.kind = e.kind ∧ e'.name = e.name

/-- The entity in slot `h` of `s`, if it is a class, is named `q`. -/
def NamedIfClass (s : Space) (q : String) (h : Handle) : Prop :=
  ∀ e, s.get? h = some e → e.kind.isClass → e.name = some q

theorem Grows.keepsNames {s s' : Space} (hg : Grows s s') : KeepsNames s s' := by
  intro h e he
  obtain ⟨e', he', hx, hn⟩ := hg.keeps he
  exact ⟨e', he', hx.kind, hn⟩

theorem KeepsNames.trans {s₁ s₂ s₃ : Space} (h₁ : KeepsNames s₁ s₂) (h₂ : KeepsNames s₂ s₃) :
    KeepsNames s₁ s₃ := by
  intro h e he
  obtain ⟨e₂, he₂, hk₂, hn₂⟩ := h₁ h e he
  obtain ⟨e₃, he₃, hk₃, hn₃⟩ := h₂ h e₂ he₂
  exact ⟨e₃, he₃, hk₃.trans hk₂, hn₃.trans hn₂⟩

theorem KeepsNames.live {s s' : Space} (hk : KeepsNames s s') {h : Handle} (hl : s.Live h) :
    s'.Live h := by
  obtain ⟨e, he⟩ := live_iff_get?.1 hl
  obtain ⟨e', he', -⟩ := hk h e he
  exact live_iff_get?.2 ⟨e', he'⟩

theorem NamedIfClass.keep {s s' : Space} {q : String} {h : Handle} (hn : NamedIfClass s q h)
    (hk : KeepsNames s s') (hl : s.Live h) : NamedIfClass s' q h := by
  intro e' he' hc
  obtain ⟨e, he⟩ := live_iff_get?.1 hl
  obtain ⟨e'', he'', hkind, hname⟩ := hk h e he
  obtain rfl : e'' = e' := Option.some.inj (he''.symm.trans he')
  rw [hname]
  exact hn e he (hkind ▸ hc)

/-- A class that is named `q` answers `q` to `name`. -/
theorem nameOf_of_named {s : Space} {q : String} {h : Handle} (hn : NamedIfClass s q h)
    {e : Entity} (he : s.get? h = some e) (hc : e.kind.isClass) :
    (nameOf (.object h)).run s = .ok (.str q) s := by
  obtain ⟨sc, hk⟩ := Kind.isClass_iff.1 hc
  simp only [nameOf_run_object he, hk, hn e he hc]
  rfl

/-- The entity in slot `h` is new in `s'` since `s`, and named `q` if it is a class, while
    the entities of `s` keep their kind and name. -/
structure NewEntity (q : String) (s s' : Space) (h : Handle) : Prop where
  fresh : ¬ s.Live h
  live : s'.Live h
  named : NamedIfClass s' q h
  keeps : KeepsNames s s'

theorem NewEntity.of_grows {q : String} {s s₁ s₂ : Space} {h : Handle} (hg : Grows s s₁)
    (hn : NewEntity q s₁ s₂ h) : NewEntity q s s₂ h where
  fresh hl := hn.fresh (Nat.lt_of_lt_of_le hl hg.size_le)
  live := hn.live
  named := hn.named
  keeps := hg.keepsNames.trans hn.keeps

theorem keepsNames_push (s : Space) (e : Entity) : KeepsNames s (s.push e) :=
  fun _ e' he' => ⟨e', get?_push_of_get? he' e, rfl, rfl⟩

/-- An entity put in the next slot is new. -/
theorem newEntity_push {q : String} (s : Space) (e : Entity) (hq : e.kind.isClass → e.name = some q) :
    NewEntity q s (s.push e) ⟨s.size⟩ where
  fresh := Nat.lt_irrefl _
  live := by
    show s.size < (s.push e).size
    simp
  named e' he' hc := by
    rw [get?_push_size] at he'
    cases he'
    exact hq hc
  keeps := keepsNames_push s e

/-- An entity put in the next slot and then named `q` is new. -/
theorem newEntity_push_rename (q : String) (s : Space) (e : Entity) :
    NewEntity q s ((s.push e).rename ⟨s.size⟩ q) ⟨s.size⟩ where
  fresh := Nat.lt_irrefl _
  live := by
    show s.size < ((s.push e).rename ⟨s.size⟩ q).size
    simp
  named e' he' _ := by
    rw [get?_rename, if_pos rfl, get?_push_size] at he'
    cases he'
    rfl
  keeps h e' he' := by
    -- the renamed slot was not in use before
    have hne : (⟨s.size⟩ : Handle) ≠ h := by
      rintro rfl
      exact Nat.lt_irrefl _ (get?_lt he')
    rw [get?_rename, if_neg hne]
    exact keepsNames_push s e h e' he'

/-- A class defined below `p` is a new class in the next slot, with the name given. -/
theorem defineClass_ok {s s' : Space} {n : Option String} {p : Option Handle} {h : Handle}
    (hr : (defineClass n p).run s = .ok h s') :
    h = ⟨s.size⟩ ∧ s' = s.push ⟨.cls (some (p.getD .object)), n, none⟩ := by
  cases he : s.get? (p.getD .object) with
  | none =>
    rw [defineClass_run_of_get?_none he] at hr
    cases hr
  | some e =>
    rw [defineClass_run he] at hr
    split at hr
    · rw [allocate_run] at hr
      split at hr
      · cases hr
        exact ⟨rfl, rfl⟩
      · cases hr
    · cases hr

/-- A new instance, of `Class` or of another class, is a new entity in the next slot, with no
    name. -/
theorem newInstance_ok {s s' : Space} {c h : Handle} (hr : (newInstance c).run s = .ok h s') :
    h = ⟨s.size⟩ ∧ ∃ k, s' = s.push ⟨k, none, none⟩ := by
  by_cases hc : c = .classClass
  · subst hc
    rw [newInstance_run_classClass] at hr
    obtain ⟨rfl, rfl⟩ := defineClass_ok hr
    exact ⟨rfl, _, rfl⟩
  · cases he : s.get? c with
    | none =>
      rw [newInstance_run_of_get?_none hc he] at hr
      cases hr
    | some e =>
      rw [newInstance_run hc he] at hr
      split at hr
      · rw [allocate_run] at hr
        split at hr
        · cases hr
          exact ⟨rfl, _, rfl⟩
        · cases hr
      · cases hr

theorem instantiate_ok {s s' : Space} {v w : Value} (hr : (instantiate v).run s = .ok w s') :
    ∃ c h, v = .object c ∧ w = .object h ∧ (newInstance c).run s = .ok h s' := by
  cases v with
  | object c =>
    rw [instantiate_run_object] at hr
    obtain ⟨h, hn, rfl⟩ := run_map_eq_ok hr
    exact ⟨c, h, rfl, rfl, hn⟩
  | _ => cases hr.symm.trans (unsupported_run s "new" _)

/-- A class defined under the name `q` is a new class named `q`. -/
theorem defineClass_new {s s' : Space} {q : String} {p : Option Handle} {h : Handle}
    (hr : (defineClass (some q) p).run s = .ok h s') : NewEntity q s s' h := by
  obtain ⟨rfl, rfl⟩ := defineClass_ok hr
  exact newEntity_push s _ fun _ => rfl

/-- A new instance named after the constant `q` is a new entity, named `q` if it is a class:
    being new, a class it is is still anonymous when it is named. -/
theorem instantiate_named {s s₁ s₂ : Space} {c : Value} {h : Handle} {q : String}
    (hi : (instantiate c).run s = .ok (.object h) s₁) (hn : (nameConstant h q).run s₁ = .ok () s₂) :
    NewEntity q s s₂ h := by
  obtain ⟨c', h', -, hh, hr⟩ := instantiate_ok hi
  cases hh
  obtain ⟨rfl, k, rfl⟩ := newInstance_ok hr
  rw [nameConstant_run (get?_push_size s ⟨k, none, none⟩)] at hn
  cases hn
  by_cases hk : k.isClass
  · simp only [hk, and_self, if_true]
    exact newEntity_push_rename q s _
  · simp only [hk, Bool.false_eq_true, false_and, if_false]
    exact newEntity_push s _ fun hc => absurd hc hk

end Space

open Space

/-! ### Scopes -/

namespace Scope

theorem run_eq_ok {α : Type} {sc sc' : Scope} {m : SpaceM α} {a : α} (h : sc.run m = (.ok a, sc')) :
    sc'.names = sc.names ∧ m.run sc.space = .ok a sc'.space := by
  unfold run at h
  cases hm : m.run sc.space with
  | ok b s =>
    rw [hm] at h
    cases h
    exact ⟨rfl, rfl⟩
  | error f s =>
    rw [hm] at h
    cases h

theorem evaluateText_grows (sc : Scope) (text : String) :
    (sc.evaluateText text).2.names = sc.names ∧ Grows sc.space (sc.evaluateText text).2.space := by
  unfold evaluateText
  cases he : Expr.parse text with
  | error f => exact ⟨rfl, .refl _⟩
  | ok e =>
    dsimp only
    rw [evaluate_eq_run, run_space]
    exact ⟨rfl, Expr.eval_grows e sc.names sc.space⟩

theorem evaluateClass_snd (sc : Scope) (text : String) :
    (sc.evaluateClass text).2 = (sc.evaluateText text).2 := by
  unfold evaluateClass
  rcases sc.evaluateText text with ⟨_ | v, sc'⟩
  · rfl
  · cases v <;> rfl

theorem moves_evaluateText {sc : Scope} (hS : sc.Sound) (text : String) :
    Fixture.Moves sc (sc.evaluateText text).2 :=
  ⟨(evaluateText_grows sc text).1, (evaluateText_grows sc text).2, (keeps_evaluateText hS text).sound⟩

/-- A text that parses as a constant path with no calls evaluates to the value the path
    resolves to, leaving the scope as it is. -/
theorem evaluateText_constant {sc : Scope} {text : String} {path : List String} {v : Value}
    (hp : ∃ e, Expr.parse text = .ok e ∧ e.receiver = .constant path ∧ e.calls = [])
    (hr : sc.names.resolve path = .ok v) : sc.evaluateText text = (.ok v, sc) := by
  obtain ⟨e, he, hrcv, hcalls⟩ := hp
  unfold evaluateText evaluate
  rw [he]
  dsimp only
  rw [Expr.eval_run]
  simp only [Expr.Receiver.value, hrcv, hr, hcalls, Expr.applyAll]
  rfl

end Scope

namespace Fixture

open Scope

/-! ### One declaration -/

/-- A class declared under `q` is a new class named `q`, defined after its superclass
    expression is evaluated. -/
theorem entityValue_cls_new {sc sc₁ : Scope} {q name : String} {superclass : Option String}
    {v : Value} (hv : entityValue q sc (.cls name superclass) = (.ok v, sc₁)) :
    sc₁.names = sc.names ∧ ∃ h, v = .object h ∧ NewEntity q sc.space sc₁.space h := by
  cases superclass with
  | none =>
    simp only [entityValue] at hv
    rcases hr : sc.run (defineClass (some q) none) with ⟨_ | h, sc''⟩ <;> rw [hr] at hv <;>
      cases hv
    obtain ⟨hn, hrun⟩ := run_eq_ok hr
    exact ⟨hn, h, rfl, defineClass_new hrun⟩
  | some text =>
    simp only [entityValue] at hv
    have hg := evaluateText_grows sc text
    rw [← evaluateClass_snd] at hg
    rcases hc : sc.evaluateClass text with ⟨_ | p, sc'⟩ <;> rw [hc] at hv hg
    · cases hv
    · dsimp only at hv hg
      rcases hr : sc'.run (defineClass (some q) (some p)) with ⟨_ | h, sc''⟩ <;> rw [hr] at hv <;>
        cases hv
      obtain ⟨hn, hrun⟩ := run_eq_ok hr
      exact ⟨hn.trans hg.1, h, rfl, (defineClass_new hrun).of_grows hg.2⟩

/-- An instance declared under `q` is a new entity, named `q` if it is a class. -/
theorem entityValue_inst_new {sc sc₁ : Scope} {q name cls : String} {v : Value}
    (hv : entityValue q sc (.inst name cls) = (.ok v, sc₁)) :
    sc₁.names = sc.names ∧ ∃ h, v = .object h ∧ NewEntity q sc.space sc₁.space h := by
  simp only [entityValue] at hv
  have hg := evaluateText_grows sc cls
  rcases he : sc.evaluateText cls with ⟨_ | c, sc'⟩ <;> rw [he] at hv hg
  · cases hv
  · dsimp only at hv hg
    rcases hi : sc'.run (instantiate c) with ⟨_ | w, sc''⟩ <;> rw [hi] at hv
    · cases hv
    · obtain ⟨hn₂, hrun₂⟩ := run_eq_ok hi
      obtain ⟨c', h, -, rfl, -⟩ := instantiate_ok hrun₂
      dsimp only at hv
      rcases hnm : sc''.run (nameConstant h q) with ⟨_ | ⟨⟩, sc'''⟩ <;> rw [hnm] at hv <;>
        cases hv
      obtain ⟨hn₃, hrun₃⟩ := run_eq_ok hnm
      exact ⟨hn₃.trans (hn₂.trans hg.1), h, rfl, (instantiate_named hrun₂ hrun₃).of_grows hg.2⟩

/-- The value of a declaration under `q` is a new entity, named `q` if it is a class; the
    constants stay as they are. -/
theorem entityValue_new {sc sc₁ : Scope} {q : String} {d : EntityDecl} {v : Value}
    (hv : entityValue q sc d = (.ok v, sc₁)) :
    sc₁.names = sc.names ∧ ∃ h, v = .object h ∧ NewEntity q sc.space sc₁.space h := by
  cases d with
  | cls name superclass => exact entityValue_cls_new hv
  | inst name cls => exact entityValue_inst_new hv

theorem declareEntity_eq_duplicate_iff {origin o q : String} {sc : Scope} {d : EntityDecl} :
    declareEntity origin sc d = .error (.duplicateEntity o q) ↔
      o = origin ∧ Expr.isConstantIdentifier d.name = true ∧ q = sc.names.qualify d.name ∧
        sc.names.contains q = true := by
  unfold declareEntity
  by_cases hv : Expr.isConstantIdentifier d.name = true
  · by_cases hc : sc.names.contains (sc.names.qualify d.name) = true
    · simp only [hv, hc, Bool.not_true, Bool.false_eq_true, if_false, if_true, Except.error.injEq,
        LoadError.duplicateEntity.injEq, true_and]
      constructor
      · rintro ⟨rfl, rfl⟩
        exact ⟨rfl, rfl, hc⟩
      · rintro ⟨rfl, rfl, -⟩
        exact ⟨rfl, rfl⟩
    · simp only [hv, hc, Bool.not_true, Bool.false_eq_true, if_false, true_and]
      constructor
      · intro h
        split at h <;> cases h
      · rintro ⟨-, rfl, hc'⟩
        exact absurd hc' hc
  · simp [hv]

/-! ### The declarations made so far -/

theorem builtinHandles_nodup : (Space.builtinConstants.map Prod.snd).Nodup := by decide

theorem slot_lt_of_builtin : ∀ h ∈ Space.builtinConstants.map Prod.snd, h.slot < builtinCount := by
  decide

variable {module : Option String} {ds : List EntityDecl} {hs : List Handle} {sc : Scope}

/-- What declaring the entities `ds`, from a fresh scope in `module`, leaves in the scope
    `sc`: their values, the handles `hs`, are new entities distinct from each other and from
    the built-in classes, bound under the qualified names of `ds` besides the built-in
    classes, each name once; each of them that is a class is named after its constant. -/
structure Declared (module : Option String) (ds : List EntityDecl) (hs : List Handle)
    (sc : Scope) : Prop where
  sound : sc.Sound
  module : sc.names.module = module
  valid : ∀ d ∈ ds, Expr.isConstantIdentifier d.name = true
  length : hs.length = ds.length
  bindings : sc.names.constants.Perm (Namespace.builtinBindings ++
    (ds.map fun d => sc.names.qualify d.name).zip (hs.map .object))
  names_nodup : (Namespace.builtinBindings.map Prod.fst ++ ds.map fun d => sc.names.qualify d.name).Nodup
  handles_nodup : (Space.builtinConstants.map Prod.snd ++ hs).Nodup
  live : ∀ h ∈ Space.builtinConstants.map Prod.snd ++ hs, sc.space.Live h
  named : ∀ p ∈ (ds.map fun d => sc.names.qualify d.name).zip hs, NamedIfClass sc.space p.1 p.2

theorem declared_start (module : Option String) :
    Declared module [] [] ⟨Space.initial, Namespace.withBuiltins module⟩ where
  sound := initial_sound module
  module := (Namespace.withBuiltins_perm module).1
  valid _ h := nomatch h
  length := rfl
  bindings := by simpa using (Namespace.withBuiltins_perm module).2
  names_nodup := by simpa using Namespace.builtinBindings_names_nodup
  handles_nodup := by simpa using builtinHandles_nodup
  live h hh := wellFormed_initial.live_builtin (slot_lt_of_builtin h (by simpa using hh))
  named _ h := nomatch h

namespace Declared

theorem keys (hD : Declared module ds hs sc) :
    (sc.names.constants.map Prod.fst).Perm
      (Namespace.builtinBindings.map Prod.fst ++ ds.map fun d => sc.names.qualify d.name) := by
  have hp := hD.bindings.map Prod.fst
  rwa [List.map_append, List.map_fst_zip (by simp [hD.length])] at hp

theorem keys_nodup (hD : Declared module ds hs sc) : (sc.names.constants.map Prod.fst).Nodup :=
  hD.keys.nodup_iff.2 hD.names_nodup

theorem contains_iff (hD : Declared module ds hs sc) {n : String} :
    sc.names.contains n = true ↔
      n ∈ Namespace.builtinBindings.map Prod.fst ++ ds.map fun d => sc.names.qualify d.name := by
  rw [Namespace.contains_iff, hD.keys.mem_iff]

/-- A declaration's qualified name finds its entity. -/
theorem find?_eq (hD : Declared module ds hs sc) {q : String} {h : Handle}
    (hp : (q, h) ∈ (ds.map fun d => sc.names.qualify d.name).zip hs) :
    sc.names.find? q = some (.object h) := by
  rw [Namespace.find?_eq_some_iff hD.keys_nodup, hD.bindings.mem_iff, List.zip_map_right]
  exact List.mem_append_right _ (List.mem_map.2 ⟨(q, h), hp, rfl⟩)

/-- Every name bound is a single segment, or a single segment inside the module. -/
theorem keys_inModule (hD : Declared module ds hs sc) {m : String} (hm : sc.names.module = some m) :
    ∀ k ∈ sc.names.constants.map Prod.fst,
      ':' ∉ k.toList ∨ ∃ k', k = m ++ "::" ++ k' ∧ ':' ∉ k'.toList := by
  intro k hk
  rcases List.mem_append.1 (hD.keys.mem_iff.1 hk) with hb | hq
  · obtain ⟨p, hp, rfl⟩ := List.mem_map.1 hb
    exact .inl (Expr.colon_not_mem_of_isConstantIdentifier (Namespace.isConstantIdentifier_builtin p hp))
  · obtain ⟨d, hd, rfl⟩ := List.mem_map.1 hq
    exact .inr ⟨d.name, by simp [Namespace.qualify, hm],
      Expr.colon_not_mem_of_isConstantIdentifier (hD.valid d hd)⟩

/-- The names qualified in the scope are those of the fresh namespace of the module. -/
theorem qualify_eq (hD : Declared module ds hs sc) (n : String) :
    sc.names.qualify n = (Namespace.withBuiltins module).qualify n :=
  Namespace.qualify_of_module_eq (hD.module.trans (Namespace.withBuiltins_perm module).1.symm) n

theorem live_keep (hD : Declared module ds hs sc) {s : Space} (hk : KeepsNames sc.space s) :
    ∀ h ∈ Space.builtinConstants.map Prod.snd ++ hs, s.Live h :=
  fun h hh => hk.live (hD.live h hh)

theorem named_keep (hD : Declared module ds hs sc) {s : Space} (hk : KeepsNames sc.space s) :
    ∀ p ∈ (ds.map fun d => sc.names.qualify d.name).zip hs, NamedIfClass s p.1 p.2 :=
  fun p hp => (hD.named p hp).keep hk (hD.live p.2 (List.mem_append_right _ (List.of_mem_zip hp).2))

/-- One more declaration keeps what the declarations before it left. -/
theorem declare {origin : String} {d : EntityDecl} {sc' : Scope} (hD : Declared module ds hs sc)
    (hstep : declareEntity origin sc d = .ok sc') : ∃ h, Declared module (ds ++ [d]) (hs ++ [h]) sc' := by
  have hS' := declareEntity_sound hD.sound hstep
  unfold declareEntity at hstep
  dsimp only at hstep
  split_ifs at hstep with hinv hdup
  rcases hv : entityValue (sc.names.qualify d.name) sc d with ⟨_ | v, sc₁⟩ <;> rw [hv] at hstep
  · cases hstep
  · cases hstep
    obtain ⟨hn₁, h, rfl, hnew⟩ := entityValue_new hv
    have hfresh : sc.names.qualify d.name ∉ sc.names.constants.map Prod.fst := fun hq =>
      hdup (Namespace.contains_iff.2 hq)
    -- the entities declared before stay, with their names, and the new one is none of them
    have hnotin : h ∉ Space.builtinConstants.map Prod.snd ++ hs := fun hh => hnew.fresh (hD.live h hh)
    have hnames : (sc.names.qualify d.name) ∉
        Namespace.builtinBindings.map Prod.fst ++ ds.map fun d => sc.names.qualify d.name :=
      fun hq => hfresh (hD.keys.mem_iff.2 hq)
    refine ⟨h, ⟨hS', ?_, ?_, ?_, ?_, ?_, ?_, ?_, ?_⟩⟩
    · simpa [hn₁] using hD.module
    · intro d' hd'
      rcases List.mem_append.1 hd' with hd' | hd'
      · exact hD.valid d' hd'
      · rw [List.mem_singleton.1 hd']
        simpa using hinv
    · simp [hD.length]
    · simp only [hn₁, Namespace.qualify_define, List.map_append, List.map_singleton]
      rw [List.zip_append (by simp [hD.length])]
      refine (Namespace.define_perm hfresh).trans ?_
      refine (hD.bindings.cons _).trans ?_
      rw [← List.append_assoc]
      exact (List.perm_append_singleton _ _).symm
    · simp only [hn₁, Namespace.qualify_define, List.map_append, List.map_singleton]
      rw [← List.append_assoc]
      exact ((List.perm_append_singleton _ _).nodup_iff).2 (List.nodup_cons.2 ⟨hnames, hD.names_nodup⟩)
    · rw [← List.append_assoc]
      exact ((List.perm_append_singleton _ _).nodup_iff).2 (List.nodup_cons.2 ⟨hnotin, hD.handles_nodup⟩)
    · intro h' hh'
      rw [← List.append_assoc] at hh'
      rcases List.mem_append.1 hh' with hh' | hh'
      · exact hD.live_keep hnew.keeps h' hh'
      · rw [List.mem_singleton.1 hh']
        exact hnew.live
    · intro p hp
      simp only [hn₁, Namespace.qualify_define, List.map_append, List.map_singleton] at hp
      rw [List.zip_append (by simp [hD.length])] at hp
      rcases List.mem_append.1 hp with hp | hp
      · exact hD.named_keep hnew.keeps p hp
      · rw [List.mem_singleton.1 hp]
        exact hnew.named

/-- Declarations made one after the other keep what the declarations before them left. -/
theorem foldlM {origin : String} :
    ∀ (rest : List EntityDecl) {ds : List EntityDecl} {hs : List Handle} {sc sc' : Scope},
      Declared module ds hs sc → rest.foldlM (declareEntity origin) sc = .ok sc' →
        ∃ hs', Declared module (ds ++ rest) hs' sc'
  | [], ds, hs, sc, sc', hD, h => by
    cases h
    exact ⟨hs, by simpa using hD⟩
  | d :: rest, ds, hs, sc, sc', hD, h => by
    rw [List.foldlM_cons] at h
    obtain ⟨sc₁, h₁, h⟩ := Expr.except_bind_eq_ok h
    obtain ⟨h', hD₁⟩ := hD.declare h₁
    obtain ⟨hs', hD'⟩ := foldlM rest hD₁ h
    exact ⟨hs', by simpa using hD'⟩

/-- Moving the scope on, with the same constants in a grown space, keeps the declarations. -/
theorem moves (hD : Declared module ds hs sc) {sc' : Scope} (hm : Moves sc sc') :
    Declared module ds hs sc' := by
  have hk := hm.grows.keepsNames
  refine ⟨hm.sound, ?_, hD.valid, hD.length, ?_, ?_, hD.handles_nodup, hD.live_keep hk, ?_⟩ <;>
    rw [hm.names]
  · exact hD.module
  · exact hD.bindings
  · exact hD.names_nodup
  · exact hD.named_keep hk

/-- In a module that is a constant path, the bare name and the qualified name of a
    declaration both evaluate to its entity. -/
theorem evaluate (hD : Declared module ds hs sc)
    (hmod : ∀ m, module = some m → Expr.isConstantPath m = true) {d : EntityDecl} {h : Handle}
    (hp : (d, h) ∈ ds.zip hs) :
    sc.evaluateText d.name = (.ok (.object h), sc) ∧
      sc.evaluateText (sc.names.qualify d.name) = (.ok (.object h), sc) := by
  have hvalid := hD.valid d (List.of_mem_zip hp).1
  have hfind : sc.names.find? (sc.names.qualify d.name) = some (.object h) := by
    refine hD.find?_eq ?_
    rw [List.zip_map_left]
    exact List.mem_map.2 ⟨(d, h), hp, rfl⟩
  have hbare : ∃ e, Expr.parse d.name = .ok e ∧ e.receiver = .constant [d.name] ∧ e.calls = [] := by
    have hpath := @Expr.parse_path d.name [] (by simpa using hvalid)
    rwa [String.intercalate_singleton] at hpath
  cases hm : sc.names.module with
  | none =>
    -- outside a module, the qualified name is the bare one
    have hq : sc.names.qualify d.name = d.name := by simp [Namespace.qualify, hm]
    rw [hq] at hfind ⊢
    have hr : sc.names.resolve [d.name] = .ok (.object h) :=
      Namespace.resolve_of_find? (fun m hm' => absurd (hm.symm.trans hm') nofun)
        (by rwa [String.intercalate_singleton])
    exact ⟨evaluateText_constant hbare hr, evaluateText_constant hbare hr⟩
  | some m =>
    have hq : sc.names.qualify d.name = m ++ "::" ++ d.name := by simp [Namespace.qualify, hm]
    rw [hq] at hfind ⊢
    refine ⟨evaluateText_constant hbare
      (Namespace.resolve_of_inModule hm (by rwa [String.intercalate_singleton])), ?_⟩
    -- the qualified name is the module's segments and then the name
    obtain ⟨segs, hne, hsegs, hjoin⟩ := Expr.segments_of_isConstantPath (hmod m (hD.module ▸ hm))
    obtain ⟨s, rest, rfl⟩ := List.exists_cons_of_ne_nil hne
    have hpath : ∃ e, Expr.parse (m ++ "::" ++ d.name) = .ok e ∧
        e.receiver = .constant (s :: rest ++ [d.name]) ∧ e.calls = [] := by
      have hall : ∀ x ∈ s :: (rest ++ [d.name]), Expr.isConstantIdentifier x = true := by
        intro x hx
        rw [← List.cons_append, List.mem_append, List.mem_singleton] at hx
        rcases hx with hx | rfl
        · exact hsegs x hx
        · exact hvalid
      have hp := Expr.parse_path hall
      rwa [← List.cons_append, Expr.intercalate_append_singleton hne, hjoin] at hp
    exact evaluateText_constant hpath
      (Namespace.resolve_qualified hm hjoin hne (hD.keys_inModule hm) hfind)

end Declared

/-! ### Loading -/

theorem registerExample_moves {origin : String} {acc acc' : Registry Scope × Scope}
    {ex : ExampleDecl} (hS : acc.2.Sound) (h : registerExample origin acc ex = .ok acc') :
    Moves acc.2 acc'.2 := by
  unfold registerExample at h
  have hm := moves_evaluateText hS ex.expected
  rcases he : acc.2.evaluateText ex.expected with ⟨_ | v, sc'⟩ <;> rw [he] at h hm
  · cases h
  · cases h
    exact hm

theorem registerExample_error {origin : String} {acc : Registry Scope × Scope} {ex : ExampleDecl}
    {e : LoadError} (h : registerExample origin acc ex = .error e) :
    ∃ f, e = .expected origin ex.description f := by
  unfold registerExample at h
  rcases he : acc.2.evaluateText ex.expected with ⟨_ | v, sc'⟩ <;> rw [he] at h <;> cases h
  exact ⟨_, rfl⟩

/-- A fold of steps that fails fails at a step, after the steps before it went through. -/
theorem exists_step_of_foldlM_error {ε α β : Type} {f : β → α → Except ε β} :
    ∀ (l : List α) {b : β} {e : ε}, l.foldlM f b = .error e →
      ∃ before a after b', l = before ++ a :: after ∧ before.foldlM f b = .ok b' ∧
        f b' a = .error e
  | [], _, _, h => by cases h
  | a :: l, b, e, h => by
    rw [List.foldlM_cons] at h
    cases ha : f b a with
    | error e' =>
      rw [ha] at h
      cases h
      exact ⟨[], a, l, b, rfl, rfl, ha⟩
    | ok b₁ =>
      rw [ha] at h
      obtain ⟨before, a', after, b', rfl, hb, hf⟩ := exists_step_of_foldlM_error l h
      refine ⟨a :: before, a', after, b', rfl, ?_, hf⟩
      rw [List.foldlM_cons, ha]
      exact hb

theorem except_bind_eq_error {ε α β : Type} {x : Except ε α} {f : α → Except ε β} {e : ε}
    (h : x >>= f = .error e) : x = .error e ∨ ∃ a, x = .ok a ∧ f a = .error e := by
  cases x with
  | error e' =>
    cases h
    exact .inl rfl
  | ok a => exact .inr ⟨a, rfl, h⟩

theorem foldlM_error_of_step {ε α β : Type} {f : β → α → Except ε β} {before after : List α}
    {a : α} {b b' : β} {e : ε} (hb : before.foldlM f b = .ok b') (ha : f b' a = .error e) :
    (before ++ a :: after).foldlM f b = .error e := by
  rw [List.foldlM_append, hb]
  show (a :: after).foldlM f b' = _
  rw [List.foldlM_cons, ha]
  rfl

theorem declared_of_foldlM {origin : String} {before : List EntityDecl} {sc : Scope}
    (h : before.foldlM (declareEntity origin) ⟨Space.initial, Namespace.withBuiltins module⟩ = .ok sc) :
    ∃ hs, Declared module before hs sc := by
  simpa using Declared.foldlM before (declared_start module) h

namespace LoadedFixture

/-- Past the checks of its file, loading a fixture is declaring its entities and then
    registering its examples. -/
theorem fromToml_of_checks {text : String} {path : Option String} {file : FixtureFile}
    (hp : parseFile text = .ok file) (hname : Text.isBlankText file.name = false)
    (hmod : ∀ m, file.module = some m → Expr.isConstantPath m = true) :
    fromToml text path =
      (file.entities.foldlM (declareEntity (path.getD "<inline>"))
          ⟨Space.initial, Namespace.withBuiltins file.module⟩ >>= fun sc =>
        file.examples.foldlM (registerExample (path.getD "<inline>")) (Registry.empty, sc) >>=
          fun r => pure ⟨file.name, file.description, path, r.2, r.1⟩) := by
  unfold fromToml
  simp only [hp, pure_bind, hname, Bool.false_eq_true, if_false]
  cases hm : file.module with
  | none => rfl
  | some m => simp only [hmod m hm, Bool.not_true, Bool.false_eq_true, if_false]

/-- A load that stops neither at the text, nor at the name, nor at the module passed their
    checks. -/
theorem checks_of_fromToml {text : String} {path : Option String}
    (hparse : ∀ origin reason, fromToml text path ≠ .error (.parse origin reason))
    (hblank : ∀ origin, fromToml text path ≠ .error (.missingName origin))
    (hmodule : ∀ origin m, fromToml text path ≠ .error (.invalidName origin m "module")) :
    ∃ file, parseFile text = .ok file ∧ Text.isBlankText file.name = false ∧
      ∀ m, file.module = some m → Expr.isConstantPath m = true := by
  cases hp : parseFile text with
  | error err =>
    refine absurd ?_ (hparse (path.getD "<inline>") (err.render text))
    unfold fromToml
    simp only [hp]
    rfl
  | ok file =>
    have hname : Text.isBlankText file.name = false := by
      cases hb : Text.isBlankText file.name
      · rfl
      · refine absurd ?_ (hblank (path.getD "<inline>"))
        unfold fromToml
        simp only [hp, pure_bind, hb, if_true]
        rfl
    refine ⟨file, rfl, hname, fun m hm => ?_⟩
    cases hc : Expr.isConstantPath m
    · refine absurd ?_ (hmodule (path.getD "<inline>") m)
      unfold fromToml
      simp only [hp, pure_bind, hname, hm, hc, Bool.false_eq_true, if_false, Bool.not_false,
        if_true]
      rfl
    · rfl

/-- A fixture that loads passed the checks of its file and holds its declarations. -/
theorem declared_of_fromToml {text : String} {path : Option String} {f : LoadedFixture}
    (h : fromToml text path = .ok f) :
    ∃ file hs, parseFile text = .ok file ∧ (∀ m, file.module = some m → Expr.isConstantPath m = true) ∧
      Declared file.module file.entities hs f.scope := by
  obtain ⟨file, hp, hname, hmod⟩ := checks_of_fromToml
    (fun _ _ he => by rw [h] at he; cases he) (fun _ he => by rw [h] at he; cases he)
    (fun _ _ he => by rw [h] at he; cases he)
  rw [fromToml_of_checks hp hname hmod] at h
  obtain ⟨sc, hsc, h⟩ := Expr.except_bind_eq_ok h
  obtain ⟨r, hr, h⟩ := Expr.except_bind_eq_ok h
  cases h
  obtain ⟨hs, hD⟩ := declared_of_foldlM hsc
  -- the examples' expected values only move the scope on
  have hm : Moves sc r.2 := foldlM_invariant (P := fun acc => Moves sc acc.2)
    (fun _ _ _ h hm => hm.trans (registerExample_moves hm.sound h)) file.examples hr
    (Moves.refl hD.sound)
  exact ⟨file, hs, hp, hmod, hD.moves hm⟩

/-- A load fails for a duplicate exactly when the checks of the file pass and the
    declarations stop at a duplicate. -/
theorem fromToml_eq_duplicate_iff {text : String} {path : Option String} {o q : String} :
    fromToml text path = .error (.duplicateEntity o q) ↔
      ∃ file, parseFile text = .ok file ∧ Text.isBlankText file.name = false ∧
        (∀ m, file.module = some m → Expr.isConstantPath m = true) ∧
        file.entities.foldlM (declareEntity (path.getD "<inline>"))
          ⟨Space.initial, Namespace.withBuiltins file.module⟩ = .error (.duplicateEntity o q) := by
  constructor
  · intro h
    obtain ⟨file, hp, hname, hmod⟩ := checks_of_fromToml
      (fun _ _ he => by rw [h] at he; cases he) (fun _ he => by rw [h] at he; cases he)
      (fun _ _ he => by rw [h] at he; cases he)
    refine ⟨file, hp, hname, hmod, ?_⟩
    rw [fromToml_of_checks hp hname hmod] at h
    rcases except_bind_eq_error h with h | ⟨sc, -, h⟩
    · exact h
    · -- the examples fail with their expected values only
      rcases except_bind_eq_error h with h | ⟨r, -, h⟩
      · obtain ⟨_, _, _, _, -, -, hf⟩ := exists_step_of_foldlM_error _ h
        obtain ⟨_, he⟩ := registerExample_error hf
        cases he
      · cases h
  · rintro ⟨file, hp, hname, hmod, h⟩
    rw [fromToml_of_checks hp hname hmod, h]
    rfl

/-- A fixture that loads binds, besides the built-in classes, one name per entity declaration,
    its name qualified with the module, to a new entity: the entities are distinct from each
    other and from the built-in classes, each of them that is a class answers its qualified
    name to `name`, and both the bare and the qualified name of a declaration evaluate to its
    entity. Loading fails for a duplicate exactly when the checks of the file pass and the
    first declaration that fails has a valid constant name already bound, by an earlier
    declaration or, outside a module, by a built-in class. -/
theorem fromToml_declares (text : String) (path : Option String) :
    (∀ f, fromToml text path = .ok f → ∃ file hs, parseFile text = .ok file ∧
      f.scope.names.module = file.module ∧ hs.length = file.entities.length ∧
      f.scope.names.constants.Perm (Namespace.builtinBindings ++
        (file.entities.map fun d => f.scope.names.qualify d.name).zip (hs.map .object)) ∧
      (Namespace.builtinBindings.map Prod.fst ++
        file.entities.map fun d => f.scope.names.qualify d.name).Nodup ∧
      (Space.builtinConstants.map Prod.snd ++ hs).Nodup ∧
      (∀ p ∈ (file.entities.map fun d => f.scope.names.qualify d.name).zip hs, ∀ e,
        f.scope.space.get? p.2 = some e → e.kind.isClass →
          (nameOf (.object p.2)).run f.scope.space = .ok (.str p.1) f.scope.space) ∧
      ∀ p ∈ file.entities.zip hs,
        f.scope.evaluateText p.1.name = (.ok (.object p.2), f.scope) ∧
        f.scope.evaluateText (f.scope.names.qualify p.1.name) = (.ok (.object p.2), f.scope)) ∧
    ∀ o q, fromToml text path = .error (.duplicateEntity o q) ↔
      o = path.getD "<inline>" ∧ ∃ file, parseFile text = .ok file ∧
        Text.isBlankText file.name = false ∧
        (∀ m, file.module = some m → Expr.isConstantPath m = true) ∧
        ∃ before d after sc, file.entities = before ++ d :: after ∧
          before.foldlM (declareEntity o) ⟨Space.initial, Namespace.withBuiltins file.module⟩ =
            .ok sc ∧
          Expr.isConstantIdentifier d.name = true ∧
          q = (Namespace.withBuiltins file.module).qualify d.name ∧
          (q ∈ before.map (fun d' => (Namespace.withBuiltins file.module).qualify d'.name) ∨
            file.module = none ∧ q ∈ Namespace.builtinBindings.map Prod.fst) := by
  refine ⟨fun f hf => ?_, fun o q => ?_⟩
  · obtain ⟨file, hs, hp, hmod, hD⟩ := declared_of_fromToml hf
    refine ⟨file, hs, hp, hD.module, hD.length, hD.bindings, hD.names_nodup, hD.handles_nodup,
      fun p hp e he hc => nameOf_of_named (hD.named p hp) he hc, fun p hp => ?_⟩
    exact hD.evaluate (hD.module ▸ hmod) hp
  · rw [fromToml_eq_duplicate_iff]
    constructor
    · rintro ⟨file, hp, hname, hmod, h⟩
      obtain ⟨before, d, after, sc, hl, hb, hd⟩ := exists_step_of_foldlM_error _ h
      obtain ⟨rfl, hvalid, rfl, hcont⟩ := declareEntity_eq_duplicate_iff.1 hd
      obtain ⟨hs, hD⟩ := declared_of_foldlM hb
      refine ⟨rfl, file, hp, hname, hmod, before, d, after, sc, hl, hb, hvalid, hD.qualify_eq _, ?_⟩
      rcases List.mem_append.1 (hD.contains_iff.1 hcont) with hbuiltin | hearlier
      · -- a built-in name has no `::`, so the module is none
        refine .inr ⟨?_, hbuiltin⟩
        cases hm : file.module with
        | none => rfl
        | some m =>
          obtain ⟨p, hpb, hpq⟩ := List.mem_map.1 hbuiltin
          have hc := Expr.colon_not_mem_of_isConstantIdentifier (Namespace.isConstantIdentifier_builtin p hpb)
          have hq : sc.names.qualify d.name = m ++ "::" ++ d.name := by
            simp [Namespace.qualify, hD.module, hm]
          rw [hpq, hq] at hc
          exact absurd (by simp) hc
      · exact .inl (by simpa only [hD.qualify_eq] using hearlier)
    · rintro ⟨rfl, file, hp, hname, hmod, before, d, after, sc, hl, hb, hvalid, rfl, hbound⟩
      refine ⟨file, hp, hname, hmod, ?_⟩
      obtain ⟨hs, hD⟩ := declared_of_foldlM hb
      rw [hl]
      refine foldlM_error_of_step hb
        (declareEntity_eq_duplicate_iff.2 ⟨rfl, hvalid, (hD.qualify_eq _).symm, ?_⟩)
      rw [hD.contains_iff]
      rcases hbound with hearlier | ⟨-, hbuiltin⟩
      · exact List.mem_append_right _ (by simpa only [hD.qualify_eq] using hearlier)
      · exact List.mem_append_left _ hbuiltin

/-- A fixture in the module `Zoo` declaring a class, and an anonymous class made as an
    instance of `Class`. -/
def zooFixture : String :=
  "name = \"zoo\"\nmodule = \"Zoo\"\n\n[[entities]]\nkind = \"class\"\nname = \"Animal\"\n\n" ++
    "[[entities]]\nkind = \"instance\"\nname = \"Meta\"\nclass = \"Class\"\n"

/-- In the module `Zoo`, the class made as an instance of `Class` is found both as `Meta`
    and as `Zoo::Meta`. -/
theorem zooFixture_finds_meta :
    ∃ f h, fromToml zooFixture none = .ok f ∧
      f.scope.evaluateText "Meta" = (.ok (.object h), f.scope) ∧
      f.scope.evaluateText "Zoo::Meta" = (.ok (.object h), f.scope) := by
  -- the text loads, in the module `Zoo`, with the declarations `Animal` and `Meta`
  have hload : (match fromToml zooFixture none with
      | .ok _ => true
      | .error _ => false) = true := by decide +kernel
  have hfile : (parseFile zooFixture).toOption.map (fun file =>
      file.module == some "Zoo" && file.entities.map EntityDecl.name == ["Animal", "Meta"]) =
      some true := by decide +kernel
  cases hf : fromToml zooFixture none with
  | error e =>
    rw [hf] at hload
    exact absurd hload Bool.false_ne_true
  | ok f =>
    obtain ⟨file, hs, hp, hmod, hlen, -, -, -, -, heval⟩ := (fromToml_declares zooFixture none).1 f hf
    rw [hp] at hfile
    simp only [Except.toOption, Option.map_some, Option.some.injEq, Bool.and_eq_true,
      beq_iff_eq] at hfile
    obtain ⟨hm, hnames⟩ := hfile
    obtain ⟨d₁, d₂, hds, hd₂⟩ : ∃ d₁ d₂, file.entities = [d₁, d₂] ∧ d₂.name = "Meta" := by
      rcases hents : file.entities with _ | ⟨d₁, _ | ⟨d₂, _ | _⟩⟩ <;> rw [hents] at hnames <;>
        simp at hnames
      exact ⟨d₁, d₂, rfl, hnames.2⟩
    rw [hds] at hlen
    obtain ⟨h₁, h₂, rfl⟩ : ∃ h₁ h₂, hs = [h₁, h₂] := by
      rcases hs with _ | ⟨h₁, _ | ⟨h₂, _ | _⟩⟩ <;> simp at hlen
      exact ⟨h₁, h₂, rfl⟩
    obtain ⟨hbare, hqual⟩ := heval (d₂, h₂) (by simp [hds])
    have hq : f.scope.names.qualify d₂.name = "Zoo::Meta" := by
      simp only [Namespace.qualify, hmod, hm, hd₂]
      decide
    rw [hd₂] at hbare
    rw [hq] at hqual
    exact ⟨f, h₂, rfl, hbare, hqual⟩

end LoadedFixture

end Fixture

end ReflectCheck
