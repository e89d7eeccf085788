import ReflectCheck.Proofs.Space.Chains

/-!
# Failed calls change nothing

Every public operation of an object space checks its arguments before it changes the space,
so a call that fails leaves the space as it found it (`Space.FailsCleanly`), unless what
stopped it is a full space: the superclass of a singleton class makes singleton classes on
the way up, and the space may fill up after some of them are made. A handle that names no
entity is reported as dangling, and only such a handle: the links between the entities of
a well-formed space all point to entities, so the recursion of the superclass query never
meets a dangling one.

* `Space.superclassOfHandle_failsCleanly`: the recursive query, by the tower of the entity;
* `Space.failedCall_changes_nothing`: every operation, in every space reached by calls.
-/

namespace ReflectCheck

namespace Space

/-- `m`, run from `s`, fails only as it should: a fault other than a full space leaves `s`
    as it was, and a dangling slot is the slot of the handle `arg` passed in, which `s` does
    not hold. -/
structure FailsCleanly {α : Type} (m : SpaceM α) (s : Space) (arg : Option Handle) : Prop where
  /-- A fault other than a full space leaves the space as it was. -/
  unchanged : ∀ f s', m.run s = .error f s' → f ≠ .exhausted → s' = s
  /-- A dangling slot is that of the handle passed in, which names no entity. -/
  dangling : ∀ n s', m.run s = .error (.dangling n) s' → ∃ h ∈ arg, h.slot = n ∧ ¬ s.Live h

section Clean

variable {α β : Type} {m : SpaceM α} {s : Space} {arg : Option Handle}

/-- A computation that gives an answer, or finds the space full, fails cleanly. -/
theorem AnswersUnlessFull.failsCleanly {P : α → Space → Prop} (hm : AnswersUnlessFull m s P) :
    FailsCleanly m s arg := by
  -- the only fault is a full space
  have hfull : ∀ f s', m.run s = .error f s' → f = .exhausted := by
    intro f s' hr
    rcases hm with ⟨a, s₁, hr', -⟩ | ⟨s₁, hr', -⟩ <;> rw [hr] at hr' <;> cases hr'
    rfl
  exact ⟨fun f s' hr hf => absurd (hfull f s' hr) hf,
    fun n s' hr => absurd (hfull _ s' hr) Fault.noConfusion⟩

theorem failsCleanly_of_ok {a : α} {s' : Space} (hm : m.run s = .ok a s') :
    FailsCleanly m s arg :=
  (answersUnlessFull_of_ok (P := fun _ _ => True) hm trivial).failsCleanly

/-- A computation that fails at once, before any change, and not as dangling. -/
theorem failsCleanly_of_error {f : Fault} (hm : m.run s = .error f s)
    (hf : ∀ n, f ≠ .dangling n) : FailsCleanly m s arg where
  unchanged f' s' hr _ := by
    rw [hm] at hr
    cases hr
    rfl
  dangling n s' hr := by
    rw [hm] at hr
    cases hr
    exact absurd rfl (hf n)

/-- A computation that fails at once on the handle passed in, which names no entity. -/
theorem failsCleanly_of_dangling {h : Handle} (he : s.get? h = none)
    (hm : m.run s = .error (.dangling h.slot) s) (harg : h ∈ arg) : FailsCleanly m s arg where
  unchanged f' s' hr _ := by
    rw [hm] at hr
    cases hr
    rfl
  dangling n s' hr := by
    rw [hm] at hr
    cases hr
    exact ⟨h, harg, rfl, fun hl => by
      obtain ⟨e, he'⟩ := live_iff_get?.1 hl
      rw [he] at he'
      cases he'⟩

theorem FailsCleanly.of_run_eq {m' : SpaceM α} (hm : m.run s = m'.run s)
    (h : FailsCleanly m' s arg) : FailsCleanly m s arg :=
  ⟨fun f s' hr => h.unchanged f s' (hm ▸ hr), fun n s' hr => h.dangling n s' (hm ▸ hr)⟩

theorem FailsCleanly.map (f : α → β) (h : FailsCleanly m s arg) : FailsCleanly (f <$> m) s arg := by
  -- a mapped computation fails exactly as the computation does
  have hback : ∀ e s', (f <$> m).run s = .error e s' → m.run s = .error e s' := by
    intro e s' hr
    cases hm : m.run s with
    | ok a s₁ => rw [run_map_ok f hm] at hr; cases hr
    | error e₁ s₁ =>
      rw [run_map_error f hm] at hr
      cases hr
      rfl
  exact ⟨fun e s' hr => h.unchanged e s' (hback e s' hr),
    fun n s' hr => h.dangling n s' (hback _ s' hr)⟩

/-- A computation that cannot report a dangling slot may be given any handle. -/
theorem FailsCleanly.of_none (h : FailsCleanly m s none) : FailsCleanly m s arg :=
  ⟨h.unchanged, fun n s' hr => by
    obtain ⟨x, hx, -⟩ := h.dangling n s' hr
    cases hx⟩

end Clean

/-! ### The operations -/

section Operations

variable {s : Space}

theorem allocate_failsCleanly (k : Kind) (n : Option String) (arg : Option Handle) :
    FailsCleanly (allocate k n) s arg := by
  by_cases hc : s.size < capacity
  · exact failsCleanly_of_ok (by rw [allocate_run, if_pos hc])
  · exact failsCleanly_of_error (by rw [allocate_run, if_neg hc]) fun _ => Fault.noConfusion

/-- A class is defined below a class that the space holds, `Object` by default. -/
theorem defineClass_failsCleanly (hw : s.WellFormed) (n : Option String) (sc : Option Handle) :
    FailsCleanly (defineClass n sc) s sc := by
  cases he : s.get? (sc.getD .object) with
  | none =>
    -- `Object` is an entity, so the superclass was given and names none
    cases sc with
    | none =>
      obtain ⟨e, he', -⟩ := hw.builtins 1 "Object" (some .basicObject) rfl
      rw [Option.getD_none] at he
      cases he.symm.trans he'
    | some p => exact failsCleanly_of_dangling he (defineClass_run_of_get?_none he) rfl
  | some e =>
    rw [← Option.mem_def] at he
    by_cases hok : e.kind.isClass ∧ sc.getD .object ≠ .classClass
    · exact .of_run_eq (by rw [defineClass_run he, if_pos hok]) (allocate_failsCleanly _ _ sc)
    · exact failsCleanly_of_error (by rw [defineClass_run he, if_neg hok])
        fun _ => Fault.noConfusion

theorem nameConstant_failsCleanly (h : Handle) (n : String) :
    FailsCleanly (nameConstant h n) s (some h) := by
  cases he : s.get? h with
  | none => exact failsCleanly_of_dangling he (nameConstant_run_of_get?_none he n) rfl
  | some e => exact failsCleanly_of_ok (nameConstant_run he n)

theorem newInstance_failsCleanly (hw : s.WellFormed) (c : Handle) :
    FailsCleanly (newInstance c) s (some c) := by
  by_cases hc : c = .classClass
  · subst hc
    exact .of_run_eq (newInstance_run_classClass s) (defineClass_failsCleanly hw none none).of_none
  · cases he : s.get? c with
    | none => exact failsCleanly_of_dangling he (newInstance_run_of_get?_none hc he) rfl
    | some e =>
      by_cases hk : e.kind.isClass
      · exact .of_run_eq (by rw [newInstance_run hc he, if_pos hk]) (allocate_failsCleanly _ _ _)
      · exact failsCleanly_of_error (by rw [newInstance_run hc he, if_neg hk])
          fun _ => Fault.noConfusion

theorem singletonClass_failsCleanly (h : Handle) :
    FailsCleanly (singletonClass h) s (some h) := by
  cases he : s.get? h with
  | none => exact failsCleanly_of_dangling he (singletonClass_run_of_get?_none he) rfl
  | some e =>
    cases ht : e.singleton with
    | some t => exact failsCleanly_of_ok (singletonClass_run_of_some he ht)
    | none =>
      by_cases hc : s.size < capacity
      · exact failsCleanly_of_ok (by rw [singletonClass_run_of_none he ht, if_pos hc])
      · exact failsCleanly_of_error (by rw [singletonClass_run_of_none he ht, if_neg hc])
          fun _ => Fault.noConfusion

/-- The superclass query fails cleanly in a well-formed space: a class answers at once, an
    instance has no superclass, and a singleton class climbs its tower, which only a full
    space can stop. -/
theorem superclassOfHandle_failsCleanly (hw : s.WellFormed) (h : Handle) :
    FailsCleanly (superclassOfHandle h) s (some h) := by
  cases he : s.get? h with
  | none => exact failsCleanly_of_dangling he (superclassOfHandle_run_of_get?_none he) rfl
  | some e =>
    obtain ⟨d, b, ht⟩ := hw.exists_tower (get?_lt he)
    cases d with
    | zero =>
      -- a class or an instance: the query answers or refuses at once
      obtain rfl := ht.eq_of_zero
      cases hk : e.kind with
      | cls sc => exact failsCleanly_of_ok (superclassOfHandle_run_cls he hk)
      | inst c =>
        exact failsCleanly_of_error (superclassOfHandle_run_inst he hk) fun _ => Fault.noConfusion
      | single a =>
        obtain ⟨e', he', hns⟩ := ht.base_get
        rw [he] at he'
        cases he'
        exact absurd hk (hns a)
    | succ d =>
      -- a singleton class: one step up its tower
      rcases ht.climbs (fun h => Nat.noConfusion h) with ⟨hd, -⟩ | ⟨d', b', hc⟩
      · exact Nat.noConfusion hd
      · exact (superclassOfHandle_tower hw ht hc).failsCleanly

theorem classOf_failsCleanly (v : Value) : FailsCleanly (classOf v) s v.handle? := by
  cases v with
  | object h =>
    cases he : s.get? h with
    | none => exact failsCleanly_of_dangling he (classOf_run_of_get?_none he) rfl
    | some e => exact failsCleanly_of_ok (classOf_run_object he)
  | bool b => cases b <;> exact failsCleanly_of_ok (classOf_run_of_primitiveClass? rfl)
  | nil | int _ | str _ => exact failsCleanly_of_ok (classOf_run_of_primitiveClass? rfl)

theorem superclassOf_failsCleanly (hw : s.WellFormed) (v : Value) :
    FailsCleanly (superclassOf v) s v.handle? := by
  cases v with
  | object h =>
    exact .of_run_eq (superclassOf_run_map s h) ((superclassOfHandle_failsCleanly hw h).map _)
  | nil | bool _ | int _ | str _ =>
    exact failsCleanly_of_error (unsupported_run s _ _) fun _ => Fault.noConfusion

theorem identityDescriptor_failsCleanly (v : Value) :
    FailsCleanly (identityDescriptor v) s v.handle? := by
  cases v with
  | object h =>
    exact .of_run_eq (identityDescriptor_run_object s h) ((singletonClass_failsCleanly h).map _)
  | bool b => cases b <;> exact failsCleanly_of_ok rfl
  | nil => exact failsCleanly_of_ok rfl
  | int _ | str _ => exact failsCleanly_of_error (unsupported_run s _ _) fun _ => Fault.noConfusion

theorem instantiate_failsCleanly (hw : s.WellFormed) (v : Value) :
    FailsCleanly (instantiate v) s v.handle? := by
  cases v with
  | object h =>
    exact .of_run_eq (instantiate_run_object s h) ((newInstance_failsCleanly hw h).map _)
  | nil | bool _ | int _ | str _ =>
    exact failsCleanly_of_error (unsupported_run s _ _) fun _ => Fault.noConfusion

theorem nameOf_failsCleanly (v : Value) : FailsCleanly (nameOf v) s v.handle? := by
  cases v with
  | object h =>
    cases he : s.get? h with
    | none => exact failsCleanly_of_dangling he (nameOf_run_of_get?_none he) rfl
    | some e =>
      have hr := nameOf_run_object he
      cases hk : e.kind with
      | cls sc => exact failsCleanly_of_ok (by rw [hr, hk])
      | single a => exact failsCleanly_of_ok (by rw [hr, hk])
      | inst c =>
        exact failsCleanly_of_error (by rw [hr, hk]) fun _ => Fault.noConfusion
  | nil | bool _ | int _ | str _ =>
    exact failsCleanly_of_error (unsupported_run s _ _) fun _ => Fault.noConfusion

end Operations

/-- In every space reached from a fresh one by calls, every operation, with any arguments,
    fails only as it should: unless the space is full, a failed call leaves the space as it
    was, with no entity made and no singleton class or name given; and a call reports a
    dangling slot only for the handle passed in, when the space holds no entity there. -/
theorem failedCall_changes_nothing (calls : List Call) :
    let s := initial.runCalls calls
    (∀ n sc, FailsCleanly (defineClass n sc) s sc) ∧
    (∀ h n, FailsCleanly (nameConstant h n) s (some h)) ∧
    (∀ c, FailsCleanly (newInstance c) s (some c)) ∧
    (∀ h, FailsCleanly (singletonClass h) s (some h)) ∧
    (∀ v, FailsCleanly (classOf v) s v.handle?) ∧
    (∀ v, FailsCleanly (superclassOf v) s v.handle?) ∧
    (∀ v, FailsCleanly (identityDescriptor v) s v.handle?) ∧
    (∀ v, FailsCleanly (instantiate v) s v.handle?) ∧
    (∀ v, FailsCleanly (nameOf v) s v.handle?) :=
  have hw := wellFormed_initial.runCalls calls
  ⟨defineClass_failsCleanly hw, nameConstant_failsCleanly, newInstance_failsCleanly hw,
    singletonClass_failsCleanly, classOf_failsCleanly, superclassOf_failsCleanly hw,
    identityDescriptor_failsCleanly, instantiate_failsCleanly hw, nameOf_failsCleanly⟩

end Space

end ReflectCheck
