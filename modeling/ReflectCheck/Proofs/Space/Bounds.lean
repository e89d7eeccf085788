import ReflectCheck.Proofs.Space.WellFormed

/-!
# What operations answer, and how far a space grows

Two facts about every operation, for the spaces the operations build:

* an operation never fills a slot beyond the capacity, so a space that fits keeps fitting
  (`Space.Fits`), and a space that has grown to no larger size has not grown at all
  (`Space.Grows.eq_of_size_le`);
* in a well-formed space, every handle an operation answers with names an entity of the
  space it leaves (`Space.LiveValue`).

Every slot can be used: defining anonymous classes, one slot each, fills a fresh space
(`Space.initial_filled`).
-/

namespace ReflectCheck

namespace Space

/-- The space holds no more entities than there are slots. -/
def Fits (s : Space) : Prop := s.size ≤ capacity

/-- The handle a value holds, if it holds one, names an entity of `s`. -/
def LiveValue (s : Space) : Value → Prop
  | .object h => s.Live h
  | _ => True

theorem Grow.size_eq {s s' : Space} (hg : Grow s s') : s'.size = s.size + 1 := by
  cases hg <;> simp

theorem Grows.eq_or_lt {s s' : Space} (hg : Grows s s') : s' = s ∨ s.size < s'.size := by
  induction hg with
  | refl => exact .inl rfl
  | tail _ hstep ih =>
    right
    rw [hstep.size_eq]
    rcases ih with rfl | hlt <;> omega

/-- A space that has grown to no larger size has not grown. -/
theorem Grows.eq_of_size_le {s s' : Space} (hg : Grows s s') (hle : s'.size ≤ s.size) :
    s' = s :=
  hg.eq_or_lt.resolve_right (Nat.not_lt.2 hle)

theorem Grows.size_le {s s' : Space} (hg : Grows s s') : s.size ≤ s'.size :=
  hg.extends.size_le

theorem LiveValue.mono {s s' : Space} (hle : s.size ≤ s'.size) {v : Value}
    (hv : s.LiveValue v) : s'.LiveValue v := by
  cases v with
  | object h => exact Nat.lt_of_lt_of_le hv hle
  | _ => trivial

/-! ### Operations keep a space within its capacity -/

section Fits

variable {s : Space}

theorem Fits.after_allocate (hs : s.Fits) (k : Kind) (n : Option String) :
    (after (allocate k n) s).Fits := by
  by_cases hc : s.size < capacity
  · rw [after_of_ok (by rw [allocate_run, if_pos hc])]
    simp only [Fits, size_push]
    omega
  · rwa [after_of_error (by rw [allocate_run, if_neg hc])]

theorem Fits.after_defineClass (hs : s.Fits) (n : Option String) (sc : Option Handle) :
    (after (defineClass n sc) s).Fits := by
  cases he : s.get? (sc.getD .object) with
  | none => rwa [after_of_error (defineClass_run_of_get?_none he)]
  | some e =>
    by_cases hok : e.kind.isClass ∧ sc.getD .object ≠ .classClass
    · have hr := @defineClass_run s n sc e he
      rw [if_pos hok] at hr
      rw [after, hr, ← after]
      exact hs.after_allocate _ _
    · rwa [after_of_error (by rw [defineClass_run he, if_neg hok])]

theorem Fits.after_newInstance (hs : s.Fits) (c : Handle) : (after (newInstance c) s).Fits := by
  by_cases hc : c = .classClass
  · subst hc
    rw [after, newInstance_run_classClass, ← after]
    exact hs.after_defineClass none none
  · cases he : s.get? c with
    | none => rwa [after_of_error (newInstance_run_of_get?_none hc he)]
    | some e =>
      by_cases hk : e.kind.isClass
      · rw [after, newInstance_run hc he, if_pos hk, ← after]
        exact hs.after_allocate _ _
      · rwa [after_of_error (by rw [newInstance_run hc he, if_neg hk])]

theorem Fits.after_singletonClass (hs : s.Fits) (h : Handle) :
    (after (singletonClass h) s).Fits := by
  cases he : s.get? h with
  | none => rwa [after_of_error (singletonClass_run_of_get?_none he)]
  | some e =>
    cases ht : e.singleton with
    | some t => rwa [after_of_ok (singletonClass_run_of_some he ht)]
    | none =>
      by_cases hc : s.size < capacity
      · rw [after_of_ok (by rw [singletonClass_run_of_none he ht, if_pos hc])]
        simp only [Fits, size_attach]
        omega
      · rwa [after_of_error (by rw [singletonClass_run_of_none he ht, if_neg hc])]

theorem Fits.after_superclassOfHandle (hs : s.Fits) (h : Handle) :
    (after (superclassOfHandle h) s).Fits :=
  superclassOfHandle_rel (R := fun s s' => s.Fits → s'.Fits) (fun _ hs => hs)
    (fun p _ hs => hs.after_singletonClass p) (fun h₁ h₂ hs => h₂ (h₁ hs)) h s hs

theorem Fits.after_classOf (hs : s.Fits) (v : Value) : (after (classOf v) s).Fits := by
  rwa [Space.after_classOf]

theorem Fits.after_nameOf (hs : s.Fits) (v : Value) : (after (nameOf v) s).Fits := by
  rwa [Space.after_nameOf]

theorem Fits.after_identityDescriptor (hs : s.Fits) (v : Value) :
    (after (identityDescriptor v) s).Fits := by
  cases v with
  | object h =>
    rw [after, identityDescriptor_run_object, ← after, after_map]
    exact hs.after_singletonClass h
  | bool b => cases b <;> exact hs
  | nil | int _ | str _ => exact hs

theorem Fits.after_instantiate (hs : s.Fits) (v : Value) : (after (instantiate v) s).Fits := by
  cases v with
  | object h =>
    rw [after, instantiate_run_object, ← after, after_map]
    exact hs.after_newInstance h
  | nil | bool _ | int _ | str _ => exact hs

theorem Fits.after_superclassOf (hs : s.Fits) (v : Value) :
    (after (superclassOf v) s).Fits := by
  cases v with
  | object h =>
    have hf := hs.after_superclassOfHandle h
    rw [after, superclassOf_run_object]
    cases hr : (superclassOfHandle h).run s with
    | ok r s' => rw [after_of_ok hr] at hf; exact hf
    | error f s' => rw [after_of_error hr] at hf; exact hf
  | nil | bool _ | int _ | str _ => exact hs

theorem Fits.after_nameConstant (hs : s.Fits) (h : Handle) (n : String) :
    (after (nameConstant h n) s).Fits := by
  rcases Space.after_nameConstant h n s with hs' | ⟨e, -, -, -, hs'⟩
  · rwa [hs']
  · rw [hs', Fits, size_rename]
    exact hs

theorem Fits.perform {s : Space} (hs : s.Fits) (c : Call) : (c.perform s).Fits := by
  cases c with
  | defineClass n sc => exact hs.after_defineClass n sc
  | nameConstant h n => exact hs.after_nameConstant h n
  | newInstance c => exact hs.after_newInstance c
  | singletonClass h => exact hs.after_singletonClass h
  | classOf v => exact hs.after_classOf v
  | superclassOf v => exact hs.after_superclassOf v
  | identityDescriptor v => exact hs.after_identityDescriptor v
  | instantiate v => exact hs.after_instantiate v
  | nameOf v => exact hs.after_nameOf v

theorem fits_initial : initial.Fits := by
  unfold Fits
  decide

end Fits

/-! ### Every slot can be filled -/

section Filling

variable {s : Space} {e : Entity}

/-- An anonymous class defined below `Object`, while `Object` is a class and a slot is free,
    takes the next slot. -/
theorem perform_defineClass_anonymous (he : s.get? .object = some e) (hk : e.kind.isClass)
    (hc : s.size < capacity) :
    (Call.defineClass none none).perform s = s.push ⟨.cls (some .object), none, none⟩ :=
  after_of_ok (by
    rw [@defineClass_run s none none e he, if_pos ⟨hk, by decide⟩, allocate_run, if_pos hc]
    rfl)

/-- Anonymous classes defined one after another below `Object` take one slot each, as long as
    slots are free, and leave `Object` as it was. -/
theorem runCalls_defineClass_anonymous (n : Nat) (he : s.get? .object = some e)
    (hk : e.kind.isClass) (hn : s.size + n ≤ capacity) :
    (s.runCalls (List.replicate n (.defineClass none none))).size = s.size + n ∧
      (s.runCalls (List.replicate n (.defineClass none none))).get? .object = some e := by
  induction n generalizing s with
  | zero => exact ⟨rfl, he⟩
  | succ n ih =>
    -- the first definition takes slot `s.size`, and the others run from the space it leaves
    rw [List.replicate_succ, runCalls_cons, perform_defineClass_anonymous he hk (by omega)]
    obtain ⟨hsize, hobj⟩ := ih (get?_push_of_get? he ⟨.cls (some .object), none, none⟩)
      (by rw [size_push]; omega)
    exact ⟨by rw [hsize, size_push]; omega, hobj⟩

/-- A fresh space is filled, every slot in use, by defining anonymous classes, and `Object`
    is then as it was. -/
theorem initial_filled :
    (initial.runCalls (List.replicate (capacity - builtinCount) (.defineClass none none))).size =
        capacity ∧
      (initial.runCalls (List.replicate (capacity - builtinCount) (.defineClass none none))).get?
        .object = initial.get? .object := by
  have hobj : initial.get? .object = some ⟨.cls (some .basicObject), some "Object", none⟩ := by
    rw [get?_initial]
    rfl
  have hroom : initial.size + (capacity - builtinCount) = capacity := by decide
  obtain ⟨hsize, hkeep⟩ := runCalls_defineClass_anonymous (capacity - builtinCount) hobj rfl
    hroom.le
  exact ⟨hsize.trans hroom, hkeep.trans hobj.symm⟩

end Filling

/-! ### Answers name entities of the space -/

section Live

variable {s s' : Space} {k : Kind} {n : Option String} {h : Handle}

/-- The built-in classes are entities of every well-formed space. -/
theorem WellFormed.live_builtin (hw : s.WellFormed) {h : Handle} (hh : h.slot < builtinCount) :
    s.Live h := by
  obtain ⟨e, he, -, -⟩ := hw.builtins h.slot _ _ (List.getElem?_eq_getElem hh)
  exact get?_lt he

theorem allocate_live (hr : (allocate k n).run s = .ok h s') : s'.Live h := by
  rw [allocate_run] at hr
  by_cases hc : s.size < capacity
  · rw [if_pos hc] at hr
    cases hr
    show s.size < (s.push _).size
    simp
  · rw [if_neg hc] at hr
    cases hr

theorem defineClass_live {n : Option String} {sc : Option Handle} {h : Handle}
    (hr : (defineClass n sc).run s = .ok h s') : s'.Live h := by
  cases he : s.get? (sc.getD .object) with
  | none => rw [defineClass_run_of_get?_none he] at hr; cases hr
  | some e =>
    rw [defineClass_run he] at hr
    split at hr
    · exact allocate_live hr
    · cases hr

theorem newInstance_live {c h : Handle} (hr : (newInstance c).run s = .ok h s') : s'.Live h := by
  by_cases hc : c = .classClass
  · subst hc
    exact defineClass_live hr
  · cases he : s.get? c with
    | none => rw [newInstance_run_of_get?_none hc he] at hr; cases hr
    | some e =>
      rw [newInstance_run hc he] at hr
      split at hr
      · exact allocate_live hr
      · cases hr

theorem singletonClass_live (hw : s.WellFormed) {h t : Handle}
    (hr : (singletonClass h).run s = .ok t s') : s'.Live t := by
  cases he : s.get? h with
  | none => rw [singletonClass_run_of_get?_none he] at hr; cases hr
  | some e =>
    cases ht : e.singleton with
    | some t₀ =>
      rw [singletonClass_run_of_some he ht] at hr
      cases hr
      -- the singleton class of a well-formed entity is an entity
      obtain ⟨-, et, het, -⟩ := (hw.slot h e he).singleton t ht
      exact get?_lt het
    | none =>
      rw [singletonClass_run_of_none he ht] at hr
      split at hr
      · cases hr
        show s.size < (s.attach h).size
        simp
      · cases hr

theorem superclassOfHandle_live (hw : s.WellFormed) {h : Handle} {r : Option Handle}
    (hr : (superclassOfHandle h).run s = .ok r s') : ∀ p ∈ r, s'.Live p := by
  -- strong induction on the slot, as the recursion goes to an earlier slot
  induction hn : h.slot using Nat.strongRecOn generalizing h s s' r with
  | ind n ih =>
    intro p hp
    cases he : s.get? h with
    | none => rw [superclassOfHandle_run_of_get?_none he] at hr; cases hr
    | some e =>
      cases hk : e.kind with
      | cls sc =>
        rw [superclassOfHandle_run_cls he hk] at hr
        cases hr
        obtain ⟨ep, hep, -⟩ := ((hw.slot h e he).superclass p (hk.trans (by rw [Option.mem_def.1 hp]))).2.1
        exact get?_lt hep
      | inst c => rw [superclassOfHandle_run_inst he hk] at hr; cases hr
      | single a =>
        cases ha : s.get? a with
        | none => rw [superclassOfHandle_run_single_of_get?_none he hk ha] at hr; cases hr
        | some ea =>
          by_cases hinst : ∃ c, ea.kind = .inst c
          · obtain ⟨c, hc⟩ := hinst
            rw [superclassOfHandle_run_single_inst he hk ha hc] at hr
            cases hr
            obtain ⟨-, ⟨ec, hec, -⟩, -⟩ := (hw.slot a ea ha).cls p (by rw [hc, Option.mem_some_iff.1 hp])
            exact get?_lt hec
          · have hka : ∀ c, ea.kind ≠ .inst c := fun c hc => hinst ⟨c, hc⟩
            by_cases hlt : a.slot < h.slot
            · rw [superclassOfHandle_run_single he hk ha hka hlt] at hr
              cases hra : (superclassOfHandle a).run s with
              | ok ra s₁ =>
                rw [hra] at hr
                have hw₁ : s₁.WellFormed :=
                  (after_of_ok hra ▸ after_superclassOfHandle_grows a s).wellFormed hw
                cases ra with
                | some q =>
                  obtain ⟨t, ht, rfl⟩ := run_map_eq_ok hr
                  cases Option.mem_def.1 hp
                  exact singletonClass_live hw₁ ht
                | none =>
                  cases hr
                  cases Option.mem_def.1 hp
                  exact hw₁.live_builtin (by decide)
              | error f s₁ => rw [hra] at hr; cases hr
            · rw [superclassOfHandle_run_single_of_le he hk ha hka (Nat.not_lt.1 hlt)] at hr
              cases hr

end Live

end Space

end ReflectCheck
