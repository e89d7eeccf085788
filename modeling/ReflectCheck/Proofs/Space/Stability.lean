import ReflectCheck.Proofs.Space.WellFormed

/-!
# Answers that stay

Once a reflective query has answered, it answers the same in every later space: the
class of a value depends only on kinds, which never change, and the singleton classes
that the identity descriptor and the superclass of a singleton class make on the way
are kept and found again (`Space.query_stable`). A second identity descriptor of a value
gives what the first gave and leaves the space as it is, and identity descriptors of
different entities differ. New classes and instances take a fresh slot.

An answer stays from the space the query left, not from the space it was asked in: a
query that makes a singleton class names the next free slot, and another call in
between moves that slot (`Space.identityDescriptor_moves`).

* `Space.runCalls_extend_stably`: every later space of a run extends an earlier one,
  names only appear by naming anonymous classes, and answers once given stay.
-/

namespace ReflectCheck

namespace Space

/-- Whether the handle names an entity of the space. -/
theorem live_iff_get? {s : Space} {h : Handle} : s.Live h ↔ ∃ e, s.get? h = some e := by
  constructor
  · intro hl
    simp only [get?]
    exact ⟨_, Array.getElem?_eq_getElem hl⟩
  · rintro ⟨e, he⟩
    exact get?_lt he

/-! ### Singleton classes are found again -/

/-- After a singleton class is given, the entity links to it. -/
theorem singletonClass_link {s s₁ : Space} {h t : Handle}
    (hr : (singletonClass h).run s = .ok t s₁) :
    ∃ e, s₁.get? h = some e ∧ e.singleton = some t := by
  cases he : s.get? h with
  | none => rw [singletonClass_run_of_get?_none he] at hr; cases hr
  | some e =>
    cases ht : e.singleton with
    | some t' =>
      rw [singletonClass_run_of_some he ht] at hr
      cases hr
      exact ⟨e, he, ht⟩
    | none =>
      rw [singletonClass_run_of_none he ht] at hr
      by_cases hc : s.size < capacity
      · rw [if_pos hc] at hr
        cases hr
        exact ⟨_, by rw [get?_attach (get?_lt he), if_pos rfl, he]; rfl, rfl⟩
      · rw [if_neg hc] at hr
        cases hr

theorem singletonClass_stable {s s₁ s' : Space} {h t : Handle}
    (hr : (singletonClass h).run s = .ok t s₁) (hx : s₁.Extends s') :
    (singletonClass h).run s' = .ok t s' := by
  obtain ⟨e, he, ht⟩ := singletonClass_link hr
  obtain ⟨e', he', hx'⟩ := hx h e he
  exact singletonClass_run_of_some he' (hx'.singleton t ht)

theorem singletonClass_grows {s s₁ : Space} {h t : Handle}
    (hr : (singletonClass h).run s = .ok t s₁) : Grows s s₁ :=
  after_of_ok hr ▸ after_singletonClass_grows h s

/-- The superclass of an entity, once given, is given again in every later space. -/
theorem superclassOfHandle_stable {h : Handle} {s s₁ : Space} {r : Option Handle}
    (hr : (superclassOfHandle h).run s = .ok r s₁) {s' : Space} (hx : s₁.Extends s') :
    (superclassOfHandle h).run s' = .ok r s' := by
  -- strong induction on the slot, as the recursion goes to an earlier slot
  induction hn : h.slot using Nat.strongRecOn generalizing h s s₁ r s' with
  | ind n ih =>
    have hg : Grows s s₁ := after_of_ok hr ▸ after_superclassOfHandle_grows h s
    have hx₀ := hg.extends.trans hx
    cases he : s.get? h with
    | none => rw [superclassOfHandle_run_of_get?_none he] at hr; cases hr
    | some e =>
      obtain ⟨e', he', hxe⟩ := hx₀ h e he
      cases hk : e.kind with
      | cls sc =>
        rw [superclassOfHandle_run_cls he hk] at hr
        cases hr
        exact superclassOfHandle_run_cls he' (hxe.kind.trans hk)
      | inst c => rw [superclassOfHandle_run_inst he hk] at hr; cases hr
      | single a =>
        cases ha : s.get? a with
        | none => rw [superclassOfHandle_run_single_of_get?_none he hk ha] at hr; cases hr
        | some ea =>
          obtain ⟨ea', ha', hxa⟩ := hx₀ a ea ha
          have hk' := hxe.kind.trans hk
          by_cases hinst : ∃ c, ea.kind = .inst c
          · obtain ⟨c, hc⟩ := hinst
            rw [superclassOfHandle_run_single_inst he hk ha hc] at hr
            cases hr
            exact superclassOfHandle_run_single_inst he' hk' ha' (hxa.kind.trans hc)
          · have hka : ∀ c, ea.kind ≠ .inst c := fun c hc => hinst ⟨c, hc⟩
            have hka' : ∀ c, ea'.kind ≠ .inst c := fun c hc => hka c (hxa.kind ▸ hc)
            by_cases hlt : a.slot < h.slot
            · rw [superclassOfHandle_run_single he hk ha hka hlt] at hr
              rw [superclassOfHandle_run_single he' hk' ha' hka' hlt]
              cases hra : (superclassOfHandle a).run s with
              | ok ra s₂ =>
                rw [hra] at hr
                cases ra with
                | some p =>
                  dsimp only at hr
                  -- the superclass of the attached entity, and then its singleton class
                  cases hsc : (singletonClass p).run s₂ with
                  | ok t s₃ =>
                    rw [run_map_ok some hsc] at hr
                    cases hr
                    have hx₂ : s₂.Extends s' := (singletonClass_grows hsc).extends.trans hx
                    rw [ih a.slot (hn ▸ hlt) hra hx₂ rfl]
                    exact run_map_ok some (singletonClass_stable hsc hx)
                  | error f s₃ => rw [run_map_error some hsc] at hr; cases hr
                | none =>
                  dsimp only at hr
                  cases hr
                  simp only [ih a.slot (hn ▸ hlt) hra hx rfl]
              | error f s₂ => rw [hra] at hr; cases hr
            · rw [superclassOfHandle_run_single_of_le he hk ha hka (Nat.not_lt.1 hlt)] at hr
              cases hr

/-! ### Queries -/

theorem classOf_stable {v r : Value} {s s₁ s' : Space} (hr : (classOf v).run s = .ok r s₁)
    (hx : s₁.Extends s') : (classOf v).run s' = .ok r s' := by
  cases v with
  | object h =>
    cases he : s.get? h with
    | none => rw [classOf_run_of_get?_none he] at hr; cases hr
    | some e =>
      rw [classOf_run_object he] at hr
      cases hr
      obtain ⟨e', he', hxe⟩ := hx h e he
      rw [classOf_run_object he', hxe.kind]
  | bool b =>
    cases b <;>
      (rw [classOf_run_of_primitiveClass? rfl] at hr ⊢; cases hr; rfl)
  | nil | int _ | str _ =>
    rw [classOf_run_of_primitiveClass? rfl] at hr ⊢
    cases hr
    rfl

theorem superclassOf_stable {v r : Value} {s s₁ s' : Space}
    (hr : (superclassOf v).run s = .ok r s₁) (hx : s₁.Extends s') :
    (superclassOf v).run s' = .ok r s' := by
  cases v with
  | object h =>
    rw [superclassOf_run_object] at hr ⊢
    cases hrh : (superclassOfHandle h).run s with
    | ok rh s₂ =>
      rw [hrh] at hr
      cases hr
      rw [superclassOfHandle_stable hrh hx]
    | error f s₂ => rw [hrh] at hr; cases hr
  | nil | bool _ | int _ | str _ => cases hr

theorem identityDescriptor_stable {v r : Value} {s s₁ s' : Space}
    (hr : (identityDescriptor v).run s = .ok r s₁) (hx : s₁.Extends s') :
    (identityDescriptor v).run s' = .ok r s' := by
  cases v with
  | object h =>
    rw [identityDescriptor_run_object] at hr ⊢
    cases hrh : (singletonClass h).run s with
    | ok t s₂ =>
      rw [run_map_ok _ hrh] at hr
      cases hr
      exact run_map_ok _ (singletonClass_stable hrh hx)
    | error f s₂ => rw [run_map_error _ hrh] at hr; cases hr
  | bool b => cases b <;> (cases hr; rfl)
  | nil => cases hr; rfl
  | int _ | str _ => cases hr

/-- The queries whose answers stay: the class, the superclass and the identity
    descriptor of a value. -/
def stableQueries : List (Value → SpaceM Value) := [classOf, superclassOf, identityDescriptor]

/-- A query that has answered answers the same in every space that extends the space it
    left, and leaves that space as it is. -/
theorem query_stable {q : Value → SpaceM Value} (hq : q ∈ stableQueries) {v r : Value}
    {s s₁ s' : Space} (hr : (q v).run s = .ok r s₁) (hx : s₁.Extends s') :
    (q v).run s' = .ok r s' := by
  simp only [stableQueries, List.mem_cons, List.not_mem_nil, or_false] at hq
  rcases hq with rfl | rfl | rfl
  · exact classOf_stable hr hx
  · exact superclassOf_stable hr hx
  · exact identityDescriptor_stable hr hx

/-- Asking twice for the identity descriptor of a value gives what the first request
    gave, and leaves the space as the first left it. -/
theorem identityDescriptor_twice (v : Value) (s : Space) :
    (identityDescriptor v).run (after (identityDescriptor v) s) = (identityDescriptor v).run s := by
  cases hr : (identityDescriptor v).run s with
  | ok r s₁ => rw [after_of_ok hr]; exact identityDescriptor_stable hr (.refl s₁)
  | error f s₁ =>
    rw [after_of_error hr]
    -- a failed request changed nothing, and fails again in the same way
    cases v with
    | object h =>
      rw [identityDescriptor_run_object] at hr ⊢
      cases he : s.get? h with
      | none =>
        rw [run_map_error _ (singletonClass_run_of_get?_none he)] at hr
        cases hr
        exact run_map_error _ (singletonClass_run_of_get?_none he)
      | some e =>
        cases ht : e.singleton with
        | some t => rw [run_map_ok _ (singletonClass_run_of_some he ht)] at hr; cases hr
        | none =>
          by_cases hc : s.size < capacity
          · rw [run_map_ok _ (by rw [singletonClass_run_of_none he ht, if_pos hc])] at hr
            cases hr
          · have hrs : (singletonClass h).run s = .error .exhausted s := by
              rw [singletonClass_run_of_none he ht, if_neg hc]
            rw [run_map_error _ hrs] at hr
            cases hr
            exact run_map_error _ hrs
    | int _ | str _ => cases hr; rfl
    | bool b => cases b <;> cases hr
    | nil => cases hr

/-- Identity descriptors of different entities differ. -/
theorem identityDescriptor_ne {x y : Handle} (hxy : x ≠ y) {vx vy : Value} {s s₁ s₂ s₃ : Space}
    (hx : (identityDescriptor (.object x)).run s = .ok vx s₁) (h₁₂ : s₁.Extends s₂)
    (hy : (identityDescriptor (.object y)).run s₂ = .ok vy s₃) (hw : s₃.WellFormed) :
    vx ≠ vy := by
  rw [identityDescriptor_run_object] at hx hy
  cases hsx : (singletonClass x).run s with
  | error f _ => rw [run_map_error _ hsx] at hx; cases hx
  | ok tx s₁' =>
    cases hsy : (singletonClass y).run s₂ with
    | error f _ => rw [run_map_error _ hsy] at hy; cases hy
    | ok ty s₃' =>
      rw [run_map_ok _ hsx] at hx
      rw [run_map_ok _ hsy] at hy
      cases hx
      cases hy
      -- in the last space both entities link to their singleton classes, and a singleton
      -- class is attached to one entity only
      obtain ⟨ex, hex, htx⟩ := singletonClass_link hsx
      obtain ⟨ey, hey, hty⟩ := singletonClass_link hsy
      obtain ⟨ex', hex', hxx⟩ := (h₁₂.trans (singletonClass_grows hsy).extends) x ex hex
      intro heq
      cases heq
      obtain ⟨-, et, het, hkx⟩ := (hw.slot x ex' hex').singleton tx (hxx.singleton tx htx)
      obtain ⟨-, et', het', hky⟩ := (hw.slot y ey hey).singleton tx hty
      rw [het] at het'
      cases het'
      exact hxy (Kind.single.inj (hkx.symm.trans hky))

/-! ### Fresh handles -/

/-- A new entity takes a slot that was not in use. -/
theorem allocate_fresh {s s₁ : Space} {k : Kind} {n : Option String} {h : Handle}
    (hr : (allocate k n).run s = .ok h s₁) : ¬ s.Live h := by
  rw [allocate_run] at hr
  by_cases hc : s.size < capacity
  · rw [if_pos hc] at hr
    cases hr
    exact Nat.lt_irrefl _
  · rw [if_neg hc] at hr
    cases hr

theorem defineClass_fresh {s s₁ : Space} {n : Option String} {sc : Option Handle} {h : Handle}
    (hr : (defineClass n sc).run s = .ok h s₁) : ¬ s.Live h := by
  cases he : s.get? (sc.getD .object) with
  | none => rw [defineClass_run_of_get?_none he] at hr; cases hr
  | some e =>
    rw [defineClass_run he] at hr
    split at hr
    · exact allocate_fresh hr
    · cases hr

theorem newInstance_fresh {s s₁ : Space} {c h : Handle}
    (hr : (newInstance c).run s = .ok h s₁) : ¬ s.Live h := by
  by_cases hc : c = .classClass
  · subst hc
    rw [newInstance_run_classClass] at hr
    exact defineClass_fresh hr
  · cases he : s.get? c with
    | none => rw [newInstance_run_of_get?_none hc he] at hr; cases hr
    | some e =>
      rw [newInstance_run hc he] at hr
      split at hr
      · exact allocate_fresh hr
      · cases hr

theorem instantiate_fresh {s s₁ : Space} {v : Value} {h : Handle}
    (hr : (instantiate v).run s = .ok (.object h) s₁) : ¬ s.Live h := by
  cases v with
  | object c =>
    rw [instantiate_run_object] at hr
    cases hn : (newInstance c).run s with
    | ok h' s₂ =>
      rw [run_map_ok _ hn] at hr
      cases hr
      exact newInstance_fresh hn
    | error f s₂ => rw [run_map_error _ hn] at hr; cases hr
  | nil | bool _ | int _ | str _ => cases hr

/-! ### Runs -/

/-- In every run from a fresh space, a later space extends an earlier one: it is no
    smaller, every entity keeps its kind, its singleton class once it has one, and its
    name once it has one, and a name only appears on an anonymous class by naming it. An
    answer of the class, superclass or identity descriptor query, once given, is given
    again after any further calls; a repeated identity descriptor changes nothing;
    identity descriptors of different entities differ; and new classes and instances
    take fresh handles. -/
theorem runCalls_extend_stably (pre calls : List Call) :
    ((initial.runCalls pre).Extends ((initial.runCalls pre).runCalls calls) ∧
      (initial.runCalls pre).size ≤ ((initial.runCalls pre).runCalls calls).size ∧
      ∀ h e e', (initial.runCalls pre).get? h = some e →
        ((initial.runCalls pre).runCalls calls).get? h = some e' → e'.name ≠ e.name →
        e.name = none ∧ e.kind.isClass ∧ ∃ n, e'.name = some n ∧ Call.nameConstant h n ∈ calls) ∧
    (∀ q ∈ stableQueries, ∀ v r s₁, (q v).run (initial.runCalls pre) = .ok r s₁ →
      (q v).run (s₁.runCalls calls) = .ok r (s₁.runCalls calls)) ∧
    (∀ v, (identityDescriptor v).run (after (identityDescriptor v) (initial.runCalls pre)) =
      (identityDescriptor v).run (initial.runCalls pre)) ∧
    (∀ x y vx vy s₁ s₂, x ≠ y →
      (identityDescriptor (.object x)).run (initial.runCalls pre) = .ok vx s₁ →
      (identityDescriptor (.object y)).run (s₁.runCalls calls) = .ok vy s₂ → vx ≠ vy) ∧
    (∀ n sc h s₁, (defineClass n sc).run (initial.runCalls pre) = .ok h s₁ →
      ¬ (initial.runCalls pre).Live h) ∧
    (∀ c h s₁, (newInstance c).run (initial.runCalls pre) = .ok h s₁ →
      ¬ (initial.runCalls pre).Live h) ∧
    (∀ v h s₁, (instantiate v).run (initial.runCalls pre) = .ok (.object h) s₁ →
      ¬ (initial.runCalls pre).Live h) := by
  have hx := extends_runCalls (initial.runCalls pre) calls
  refine ⟨⟨hx, hx.size_le, fun h e e' he he' hne => name_change_runCalls he he' hne⟩,
    fun q hq v r s₁ hr => query_stable hq hr (extends_runCalls s₁ calls),
    fun v => identityDescriptor_twice v _,
    fun x y vx vy s₁ s₂ hxy hvx hvy => ?_,
    fun _ _ _ _ hr => defineClass_fresh hr,
    fun _ _ _ hr => newInstance_fresh hr,
    fun _ _ _ hr => instantiate_fresh hr⟩
  -- the last space is reached from a fresh one by calls, so it is well formed
  have hg : s₁ = initial.runCalls (pre ++ [.identityDescriptor (.object x)]) := by
    rw [runCalls_append, runCalls_cons, runCalls_nil]
    exact (after_of_ok hvx).symm
  have hw : s₂.WellFormed := by
    rw [← after_of_ok hvy, hg, ← runCalls_append]
    exact (wellFormed_initial.runCalls _).perform (.identityDescriptor (.object y))
  exact identityDescriptor_ne hxy hvx (extends_runCalls s₁ calls) hvy hw

/-- An identity descriptor is not an answer that stays from the space it was asked in:
    in a fresh space the singleton class of `Object` would take slot 9, but once a class
    is defined first, it takes slot 10. -/
theorem identityDescriptor_moves :
    (identityDescriptor (.object .object)).run' initial = some (.object ⟨9⟩) ∧
      (identityDescriptor (.object .object)).run'
        (initial.runCalls [.defineClass none none]) = some (.object ⟨10⟩) := by
  decide

end Space

end ReflectCheck
