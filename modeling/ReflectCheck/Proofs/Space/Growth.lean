import Mathlib.Logic.Relation
import ReflectCheck.Proofs.Space.Run

/-!
# How an object space grows

Every operation of an object space changes it by steps of three kinds (`Space.Grow`):
a new class below a class other than `Class`, a new instance of such a class, and a
new singleton class for an entity that has none. Naming an anonymous class after its
constant is the only other change (`Space.rename`). Nothing is ever removed, and no
link or name is ever changed back, so a space `Extends` every space it came from.

* `Call`: the public operations of a space, with their arguments, and
  `Space.runCalls`, the space left by a sequence of calls, failed ones included;
* `Call.grows_or_renames`: a call grows the space, or names an anonymous class;
* `Space.extends_runCalls`: a space extends every earlier space of a run;
* `Space.name_change_runCalls`: a name only appears on an anonymous class, and only by
  naming it.
-/

namespace ReflectCheck

namespace Entity

/-- `e'` is `e` as it may be later: of the same kind, with the singleton class and the
    name `e` has, if it has them. -/
structure Extends (e e' : Entity) : Prop where
  /-- The kind, with its links, never changes. -/
  kind : e'.kind = e.kind
  /-- A singleton class, once made, stays. -/
  singleton : ∀ t, e.singleton = some t → e'.singleton = some t
  /-- A name, once given, stays. -/
  name : ∀ n, e.name = some n → e'.name = some n

theorem Extends.refl (e : Entity) : e.Extends e :=
  ⟨rfl, fun _ h => h, fun _ h => h⟩

theorem Extends.trans {e₁ e₂ e₃ : Entity} (h₁ : e₁.Extends e₂)
    (h₂ : e₂.Extends e₃) : e₁.Extends e₃ :=
  ⟨h₂.kind.trans h₁.kind, fun t ht => h₂.singleton t (h₁.singleton t ht),
    fun n hn => h₂.name n (h₁.name n hn)⟩

end Entity

namespace Space

/-! ### Growth steps -/

/-- One step by which an operation grows a space. -/
inductive Grow : Space → Space → Prop where
  /-- A new class below `p`, a class other than `Class`. -/
  | defineClass {s : Space} {p : Handle} {e : Entity} (name : Option String)
      (hp : s.get? p = some e) (hc : e.kind.isClass) (hne : p ≠ .classClass) :
      Grow s (s.push ⟨.cls (some p), name, none⟩)
  /-- A new instance of `c`, a class other than `Class`. -/
  | newInstance {s : Space} {c : Handle} {e : Entity}
      (hc : s.get? c = some e) (hk : e.kind.isClass) (hne : c ≠ .classClass) :
      Grow s (s.push ⟨.inst c, none, none⟩)
  /-- A new singleton class for `h`, which has none yet. -/
  | attach {s : Space} {h : Handle} {e : Entity} (he : s.get? h = some e)
      (hn : e.singleton = none) : Grow s (s.attach h)

/-- Any number of growth steps. -/
def Grows (s s' : Space) : Prop := Relation.ReflTransGen Grow s s'

theorem Grows.refl (s : Space) : Grows s s := Relation.ReflTransGen.refl

theorem Grows.single {s s' : Space} (h : Grow s s') : Grows s s' :=
  Relation.ReflTransGen.single h

theorem Grows.trans {s₁ s₂ s₃ : Space} (h₁ : Grows s₁ s₂) (h₂ : Grows s₂ s₃) : Grows s₁ s₃ :=
  Relation.ReflTransGen.trans h₁ h₂

/-! ### Extension -/

/-- Every entity of `s` is in `s'`, in the same slot, and `s'` extends it. -/
def Extends (s s' : Space) : Prop :=
  ∀ h e, s.get? h = some e → ∃ e', s'.get? h = some e' ∧ e.Extends e'

theorem Extends.refl (s : Space) : s.Extends s := fun _ e he => ⟨e, he, .refl e⟩

theorem Extends.trans {s₁ s₂ s₃ : Space} (h₁ : s₁.Extends s₂) (h₂ : s₂.Extends s₃) :
    s₁.Extends s₃ := by
  intro h e he
  obtain ⟨e₂, he₂, hx₂⟩ := h₁ h e he
  obtain ⟨e₃, he₃, hx₃⟩ := h₂ h e₂ he₂
  exact ⟨e₃, he₃, hx₂.trans hx₃⟩

/-- A space never shrinks. -/
theorem Extends.size_le {s s' : Space} (hx : s.Extends s') : s.size ≤ s'.size := by
  cases hs : s.size with
  | zero => exact Nat.zero_le _
  | succ n =>
    -- the last entity of `s` is still there
    obtain ⟨e, he⟩ : ∃ e, s.get? ⟨n⟩ = some e := by
      simp only [get?]
      exact ⟨_, Array.getElem?_eq_getElem (by simp only [size] at hs; omega)⟩
    obtain ⟨e', he', -⟩ := hx ⟨n⟩ e he
    exact get?_lt he'

theorem extends_push (s : Space) (e : Entity) : s.Extends (s.push e) :=
  fun _ e' he => ⟨e', get?_push_of_get? he _, .refl e'⟩

theorem extends_attach {s : Space} {h : Handle} {e : Entity} (he : s.get? h = some e)
    (hn : e.singleton = none) : s.Extends (s.attach h) := by
  intro h' e' he'
  rw [get?_attach (get?_lt he)]
  by_cases hh : h = h'
  · subst hh
    rw [he] at he'
    cases he'
    exact ⟨{ e with singleton := some ⟨s.size⟩ }, by simp [he], rfl,
      fun t ht => by simp [hn] at ht, fun _ hn' => hn'⟩
  · simp only [hh, if_false, Nat.ne_of_lt (get?_lt he'), he']
    exact ⟨e', rfl, .refl e'⟩

theorem extends_rename {s : Space} {h : Handle} {e : Entity} (he : s.get? h = some e)
    (hn : e.name = none) (n : String) : s.Extends (s.rename h n) := by
  intro h' e' he'
  rw [get?_rename]
  by_cases hh : h = h'
  · subst hh
    rw [he] at he'
    cases he'
    exact ⟨{ e with name := some n }, by simp [he], rfl, fun _ ht => ht,
      fun n' hn' => by simp [hn] at hn'⟩
  · simp only [hh, if_false, he']
    exact ⟨e', rfl, .refl e'⟩

/-- A growth step extends the space and keeps every name. -/
theorem Grow.keeps {s s' : Space} (hg : Grow s s') {h : Handle} {e : Entity}
    (he : s.get? h = some e) : ∃ e', s'.get? h = some e' ∧ e.Extends e' ∧ e'.name = e.name := by
  cases hg with
  | defineClass name hp hc hne => exact ⟨e, get?_push_of_get? he _, .refl e, rfl⟩
  | newInstance hc hk hne => exact ⟨e, get?_push_of_get? he _, .refl e, rfl⟩
  | @attach h₀ e₀ ha hn =>
    obtain ⟨e', he', hx⟩ := extends_attach ha hn h e he
    refine ⟨e', he', hx, ?_⟩
    -- attaching changes the singleton link of one entity only
    rw [get?_attach (get?_lt ha)] at he'
    by_cases hh : h₀ = h
    · subst hh
      simp only [if_true, he, Option.map_some, Option.some.injEq] at he'
      rw [← he']
    · simp only [hh, if_false, Nat.ne_of_lt (get?_lt he), he, Option.some.injEq] at he'
      rw [he']

theorem Grows.keeps {s s' : Space} (hg : Grows s s') {h : Handle} {e : Entity}
    (he : s.get? h = some e) : ∃ e', s'.get? h = some e' ∧ e.Extends e' ∧ e'.name = e.name := by
  induction hg with
  | refl => exact ⟨e, he, .refl e, rfl⟩
  | tail _ hstep ih =>
    obtain ⟨e₁, he₁, hx₁, hn₁⟩ := ih
    obtain ⟨e₂, he₂, hx₂, hn₂⟩ := hstep.keeps he₁
    exact ⟨e₂, he₂, hx₁.trans hx₂, hn₂.trans hn₁⟩

theorem Grows.extends {s s' : Space} (hg : Grows s s') : s.Extends s' := fun _ _ he =>
  let ⟨e', he', hx, _⟩ := hg.keeps he
  ⟨e', he', hx⟩

/-! ### What each operation does -/

theorem after_map {α β : Type} (f : α → β) (x : SpaceM α) (s : Space) :
    after (f <$> x) s = after x s := by
  cases hx : x.run s with
  | ok a s' => rw [after_of_ok (run_map_ok f hx), after_of_ok hx]
  | error e s' => rw [after_of_error (run_map_error f hx), after_of_error hx]

theorem after_unsupported {α : Type} (method : String) (v : Value) (s : Space) :
    after (unsupported method v : SpaceM α) s = s :=
  after_of_error (unsupported_run s method v)

theorem after_allocate_grows {s : Space} {k : Kind} {n : Option String}
    (hg : s.size < capacity → Grow s (s.push ⟨k, n, none⟩)) : Grows s (after (allocate k n) s) := by
  by_cases hc : s.size < capacity
  · rw [after_of_ok (by rw [allocate_run, if_pos hc])]
    exact .single (hg hc)
  · rw [after_of_error (by rw [allocate_run, if_neg hc])]
    exact .refl s

theorem after_defineClass_grows (n : Option String) (sc : Option Handle) (s : Space) :
    Grows s (after (defineClass n sc) s) := by
  cases he : s.get? (sc.getD .object) with
  | none =>
    rw [after_of_error (defineClass_run_of_get?_none he)]
    exact .refl s
  | some e =>
    by_cases hok : e.kind.isClass ∧ sc.getD .object ≠ .classClass
    · have hr := @defineClass_run s n sc e he
      rw [if_pos hok] at hr
      rw [after, hr, ← after]
      exact after_allocate_grows fun _ => .defineClass n he hok.1 hok.2
    · rw [after_of_error (by rw [defineClass_run he, if_neg hok])]
      exact .refl s

theorem after_newInstance_grows (c : Handle) (s : Space) :
    Grows s (after (newInstance c) s) := by
  by_cases hc : c = .classClass
  · subst hc
    rw [after, newInstance_run_classClass, ← after]
    exact after_defineClass_grows none none s
  · cases he : s.get? c with
    | none =>
      rw [after_of_error (newInstance_run_of_get?_none hc he)]
      exact .refl s
    | some e =>
      by_cases hk : e.kind.isClass
      · rw [after, newInstance_run hc he, if_pos hk, ← after]
        exact after_allocate_grows fun _ => .newInstance he hk hc
      · rw [after_of_error (by rw [newInstance_run hc he, if_neg hk])]
        exact .refl s

theorem after_singletonClass_grows (h : Handle) (s : Space) :
    Grows s (after (singletonClass h) s) := by
  cases he : s.get? h with
  | none =>
    rw [after_of_error (singletonClass_run_of_get?_none he)]
    exact .refl s
  | some e =>
    cases ht : e.singleton with
    | some t =>
      rw [after_of_ok (singletonClass_run_of_some he ht)]
      exact .refl s
    | none =>
      by_cases hc : s.size < capacity
      · rw [after_of_ok (by rw [singletonClass_run_of_none he ht, if_pos hc])]
        exact .single (.attach he ht)
      · rw [after_of_error (by rw [singletonClass_run_of_none he ht, if_neg hc])]
        exact .refl s

section Superclass

/-! Asking for a superclass changes the space only by asking for singleton classes on the way
up, so it keeps every reflexive, transitive relation between spaces that asking for a
singleton class keeps: growth, the capacity, and the names. -/

variable {R : Space → Space → Prop} (hrefl : ∀ s, R s s)
  (hsingle : ∀ p s, R s (after (singletonClass p) s))
include hrefl hsingle

/-- For a singleton class, the rest of the call relates the space that the recursive call
    leaves to the space it leaves. -/
theorem superclassOfHandle_single_rel {s : Space} {h a : Handle} {e ea : Entity}
    (he : s.get? h = some e) (hk : e.kind = .single a) (ha : s.get? a = some ea)
    (hka : ∀ c, ea.kind ≠ .inst c) (hlt : a.slot < h.slot) :
    R (after (superclassOfHandle a) s) (after (superclassOfHandle h) s) := by
  unfold after
  rw [superclassOfHandle_run_single he hk ha hka hlt]
  cases (superclassOfHandle a).run s with
  | ok r s₁ =>
    cases r with
    | some p =>
      simp only
      rw [← after, after_map]
      exact hsingle p s₁
    | none => exact hrefl s₁
  | error f s₁ => exact hrefl s₁

theorem superclassOfHandle_rel (htrans : ∀ {s₁ s₂ s₃}, R s₁ s₂ → R s₂ s₃ → R s₁ s₃)
    (h : Handle) (s : Space) : R s (after (superclassOfHandle h) s) := by
  -- strong induction on the slot: the recursion goes to the attached entity, which is
  -- in an earlier slot
  induction hn : h.slot using Nat.strongRecOn generalizing h s with
  | ind n ih =>
    cases he : s.get? h with
    | none =>
      rw [after_of_error (superclassOfHandle_run_of_get?_none he)]
      exact hrefl s
    | some e =>
      cases hk : e.kind with
      | cls sc =>
        rw [after_of_ok (superclassOfHandle_run_cls he hk)]
        exact hrefl s
      | inst c =>
        rw [after_of_error (superclassOfHandle_run_inst he hk)]
        exact hrefl s
      | single a =>
        cases ha : s.get? a with
        | none =>
          rw [after_of_error (superclassOfHandle_run_single_of_get?_none he hk ha)]
          exact hrefl s
        | some ea =>
          by_cases hinst : ∃ c, ea.kind = .inst c
          · obtain ⟨c, hc⟩ := hinst
            rw [after_of_ok (superclassOfHandle_run_single_inst he hk ha hc)]
            exact hrefl s
          · have hka : ∀ c, ea.kind ≠ .inst c := fun c hc => hinst ⟨c, hc⟩
            by_cases hlt : a.slot < h.slot
            · exact htrans (ih a.slot (hn ▸ hlt) a s rfl)
                (superclassOfHandle_single_rel hrefl hsingle he hk ha hka hlt)
            · rw [after_of_error (superclassOfHandle_run_single_of_le he hk ha hka
                (Nat.not_lt.1 hlt))]
              exact hrefl s

end Superclass

/-- For a singleton class, the rest of the call only grows the space that the recursive
    call leaves. -/
theorem after_superclassOfHandle_single_grows {s : Space} {h a : Handle} {e ea : Entity}
    (he : s.get? h = some e) (hk : e.kind = .single a) (ha : s.get? a = some ea)
    (hka : ∀ c, ea.kind ≠ .inst c) (hlt : a.slot < h.slot) :
    Grows (after (superclassOfHandle a) s) (after (superclassOfHandle h) s) :=
  superclassOfHandle_single_rel Grows.refl after_singletonClass_grows he hk ha hka hlt

/-- Asking for a superclass may make singleton classes on the way up, and does nothing
    else. -/
theorem after_superclassOfHandle_grows (h : Handle) (s : Space) :
    Grows s (after (superclassOfHandle h) s) :=
  superclassOfHandle_rel Grows.refl after_singletonClass_grows (fun h₁ h₂ => h₁.trans h₂) h s

theorem after_classOf (v : Value) (s : Space) : after (classOf v) s = s := by
  cases v with
  | object h =>
    cases he : s.get? h with
    | none => exact after_of_error (classOf_run_of_get?_none he)
    | some e => exact after_of_ok (classOf_run_object he)
  | bool b => cases b <;> exact after_of_ok (classOf_run_of_primitiveClass? rfl)
  | nil | int _ | str _ => exact after_of_ok (classOf_run_of_primitiveClass? rfl)

theorem after_nameOf (v : Value) (s : Space) : after (nameOf v) s = s := by
  cases v with
  | object h =>
    cases he : s.get? h with
    | none => exact after_of_error (nameOf_run_of_get?_none he)
    | some e =>
      rw [after, nameOf_run_object he]
      cases e.kind <;> rfl
  | _ => exact after_unsupported _ _ s

theorem after_identityDescriptor_grows (v : Value) (s : Space) :
    Grows s (after (identityDescriptor v) s) := by
  cases v with
  | object h =>
    rw [after, identityDescriptor_run_object, ← after, after_map]
    exact after_singletonClass_grows h s
  | bool b => cases b <;> exact .refl s
  | nil | int _ | str _ => exact .refl s

theorem after_instantiate_grows (v : Value) (s : Space) :
    Grows s (after (instantiate v) s) := by
  cases v with
  | object h =>
    rw [after, instantiate_run_object, ← after, after_map]
    exact after_newInstance_grows h s
  | nil | bool _ | int _ | str _ => exact .refl s

theorem after_superclassOf_grows (v : Value) (s : Space) :
    Grows s (after (superclassOf v) s) := by
  cases v with
  | object h =>
    have hg := after_superclassOfHandle_grows h s
    rw [after, superclassOf_run_object]
    cases hr : (superclassOfHandle h).run s with
    | ok r s' => rw [after_of_ok hr] at hg; exact hg
    | error f s' => rw [after_of_error hr] at hg; exact hg
  | nil | bool _ | int _ | str _ => exact .refl s

/-- Naming leaves the space as it is, or names an anonymous class. -/
theorem after_nameConstant (h : Handle) (n : String) (s : Space) :
    after (nameConstant h n) s = s ∨ ∃ e, s.get? h = some e ∧ e.kind.isClass ∧
      e.name = none ∧ after (nameConstant h n) s = s.rename h n := by
  cases he : s.get? h with
  | none => exact .inl (after_of_error (nameConstant_run_of_get?_none he n))
  | some e =>
    rw [after_of_ok (nameConstant_run he n)]
    by_cases hc : e.kind.isClass ∧ e.name = none
    · exact .inr ⟨e, rfl, hc.1, hc.2, if_pos hc⟩
    · exact .inl (if_neg hc)

end Space

/-! ### Runs of calls -/

/-- A public operation of an object space, with its arguments. -/
inductive Call where
  | defineClass (name : Option String) (superclass : Option Handle)
  | nameConstant (h : Handle) (name : String)
  | newInstance (c : Handle)
  | singletonClass (h : Handle)
  | classOf (v : Value)
  | superclassOf (v : Value)
  | identityDescriptor (v : Value)
  | instantiate (v : Value)
  | nameOf (v : Value)
  deriving DecidableEq

namespace Call

/-- The space a call leaves, whether it succeeds or fails. -/
def perform : Call → Space → Space
  | .defineClass n sc => Space.after (Space.defineClass n sc)
  | .nameConstant h n => Space.after (Space.nameConstant h n)
  | .newInstance c => Space.after (Space.newInstance c)
  | .singletonClass h => Space.after (Space.singletonClass h)
  | .classOf v => Space.after (Space.classOf v)
  | .superclassOf v => Space.after (Space.superclassOf v)
  | .identityDescriptor v => Space.after (Space.identityDescriptor v)
  | .instantiate v => Space.after (Space.instantiate v)
  | .nameOf v => Space.after (Space.nameOf v)

/-- A call grows the space, or it names an anonymous class. -/
theorem grows_or_renames (c : Call) (s : Space) :
    Space.Grows s (c.perform s) ∨ ∃ h n e, c = .nameConstant h n ∧ s.get? h = some e ∧
      e.kind.isClass ∧ e.name = none ∧ c.perform s = s.rename h n := by
  cases c with
  | defineClass n sc => exact .inl (Space.after_defineClass_grows n sc s)
  | nameConstant h n =>
    rcases Space.after_nameConstant h n s with hs | ⟨e, he, hc, hn, hs⟩
    · left
      show Space.Grows s (Space.after _ s)
      rw [hs]
      exact .refl s
    · exact .inr ⟨h, n, e, rfl, he, hc, hn, hs⟩
  | newInstance c => exact .inl (Space.after_newInstance_grows c s)
  | singletonClass h => exact .inl (Space.after_singletonClass_grows h s)
  | classOf v =>
    left
    show Space.Grows s (Space.after _ s)
    rw [Space.after_classOf]
    exact .refl s
  | superclassOf v => exact .inl (Space.after_superclassOf_grows v s)
  | identityDescriptor v => exact .inl (Space.after_identityDescriptor_grows v s)
  | instantiate v => exact .inl (Space.after_instantiate_grows v s)
  | nameOf v =>
    left
    show Space.Grows s (Space.after _ s)
    rw [Space.after_nameOf]
    exact .refl s

/-- A call extends the space. -/
theorem perform_extends (c : Call) (s : Space) : s.Extends (c.perform s) := by
  rcases c.grows_or_renames s with hg | ⟨h, n, e, -, he, -, hn, hs⟩
  · exact hg.extends
  · exact hs ▸ Space.extends_rename he hn n

end Call

namespace Space

/-- The space left by a sequence of calls, each on the space the one before left. -/
def runCalls (s : Space) (calls : List Call) : Space :=
  calls.foldl (fun s c => c.perform s) s

@[simp] theorem runCalls_nil (s : Space) : s.runCalls [] = s := rfl

@[simp] theorem runCalls_cons (s : Space) (c : Call) (calls : List Call) :
    s.runCalls (c :: calls) = (c.perform s).runCalls calls := rfl

theorem runCalls_append (s : Space) (calls calls' : List Call) :
    s.runCalls (calls ++ calls') = (s.runCalls calls).runCalls calls' := by
  simp [runCalls, List.foldl_append]

/-- A space extends every earlier space of a run. -/
theorem extends_runCalls (s : Space) (calls : List Call) : s.Extends (s.runCalls calls) := by
  induction calls generalizing s with
  | nil => exact .refl s
  | cons c calls ih => exact (c.perform_extends s).trans (ih (c.perform s))

/-- A call other than naming keeps every name. -/
theorem name_perform {c : Call} {s : Space} {h : Handle} {e e' : Entity}
    (he : s.get? h = some e) (he' : (c.perform s).get? h = some e') (hne : e'.name ≠ e.name) :
    e.name = none ∧ e.kind.isClass ∧ ∃ n, e'.name = some n ∧ c = .nameConstant h n := by
  rcases c.grows_or_renames s with hg | ⟨h₀, n, e₀, hc, he₀, hk, hn, hs⟩
  · obtain ⟨e₁, he₁, -, hname⟩ := hg.keeps he
    rw [he'] at he₁
    cases he₁
    exact absurd hname hne
  · rw [hs, get?_rename] at he'
    by_cases hh : h₀ = h
    · subst hh
      rw [he₀] at he
      cases he
      simp only [if_true, he₀, Option.map_some, Option.some.injEq] at he'
      exact ⟨hn, hk, n, by rw [← he'], hc⟩
    · simp only [hh, if_false, he, Option.some.injEq] at he'
      exact absurd (by rw [he']) hne

/-- A name only appears on an anonymous class, and only by naming it after a constant. -/
theorem name_change_runCalls {calls : List Call} {s : Space} {h : Handle} {e e' : Entity}
    (he : s.get? h = some e) (he' : (s.runCalls calls).get? h = some e')
    (hne : e'.name ≠ e.name) :
    e.name = none ∧ e.kind.isClass ∧ ∃ n, e'.name = some n ∧ Call.nameConstant h n ∈ calls := by
  induction calls generalizing s e with
  | nil => exact absurd (by rw [runCalls_nil, he] at he'; cases he'; rfl) hne
  | cons c calls ih =>
    rw [runCalls_cons] at he'
    obtain ⟨e₁, he₁, hx₁⟩ := c.perform_extends s h e he
    by_cases h₁ : e₁.name = e.name
    · -- the first call kept the name: it changed later
      obtain ⟨hn, hk, n, hn', hmem⟩ := ih he₁ he' (h₁ ▸ hne)
      exact ⟨h₁ ▸ hn, hx₁.kind ▸ hk, n, hn', List.mem_cons_of_mem c hmem⟩
    · -- the first call named the class, and later calls keep its name
      obtain ⟨hn, hk, n, hn₁, rfl⟩ := name_perform he he₁ h₁
      obtain ⟨e₂, he₂, hx₂⟩ := extends_runCalls _ calls h e₁ he₁
      rw [he'] at he₂
      cases he₂
      exact ⟨hn, hk, n, hx₂.name n hn₁, List.mem_cons_self⟩

end Space

end ReflectCheck
