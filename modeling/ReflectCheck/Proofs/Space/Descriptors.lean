import ReflectCheck.Proofs.Space.Stability
import ReflectCheck.Proofs.Space.Bounds

/-!
# Laws of singleton classes

The identity descriptor of an entity is its singleton class, and the singleton classes
follow the class hierarchy one level up: the class of a singleton class is `Class`; the
superclass of the singleton class of an instance is the class of the instance; the
superclass of the singleton class of any other entity is the singleton class of its
superclass, and `Class` above the root class.

Each law is an equation between two computations that may both make singleton classes,
so the law says that its two sides denote the same value whichever is evaluated first
(`Space.Equates`). The only thing that can stop an evaluation is a space with no free slot
left (`Space.AnswersUnlessFull`).

* `Space.superclassOfHandle_singleton`: the superclass of a singleton class is found from
  the superclass of the entity it is attached to;
* `Space.identityDescriptor_laws`: the four laws, in every space reached by calls;
* `Space.object_identityDescriptor_exhausted`: a space reached by calls can be full, and
  there the first law fails for `Object`, whose singleton class is not made yet.
-/

namespace ReflectCheck

namespace Space

/-! ### Answers unless the space is full -/

/-- `m`, run from `s`, answers with a value and a space that satisfy `P`, unless it finds
    the space full. -/
def AnswersUnlessFull {α : Type} (m : SpaceM α) (s : Space) (P : α → Space → Prop) : Prop :=
  (∃ a s', m.run s = .ok a s' ∧ P a s') ∨
    ∃ s', m.run s = .error .exhausted s' ∧ capacity ≤ s'.size

section Answers

variable {α β : Type} {m : SpaceM α} {s : Space} {P Q : α → Space → Prop}

theorem answersUnlessFull_of_ok {a : α} {u : Space} (hm : m.run s = .ok a u) (hp : P a u) :
    AnswersUnlessFull m s P :=
  .inl ⟨a, u, hm, hp⟩

theorem AnswersUnlessFull.mono (hm : AnswersUnlessFull m s P)
    (hpq : ∀ a s', m.run s = .ok a s' → P a s' → Q a s') : AnswersUnlessFull m s Q := by
  rcases hm with ⟨a, s', hr, hp⟩ | hfull
  · exact .inl ⟨a, s', hr, hpq a s' hr hp⟩
  · exact .inr hfull

/-- A sequence answers unless the space is full when its first part does, and its second
    part does after every answer of the first. -/
theorem AnswersUnlessFull.bind {k : α → SpaceM β} {R : β → Space → Prop}
    (hm : AnswersUnlessFull m s P)
    (hk : ∀ a s', m.run s = .ok a s' → P a s' → AnswersUnlessFull (k a) s' R) :
    AnswersUnlessFull (m >>= k) s R := by
  rcases hm with ⟨a, s', hr, hp⟩ | ⟨s', hr, hfull⟩
  · rcases hk a s' hr hp with ⟨b, s'', hr', hq⟩ | ⟨s'', hr', hfull⟩
    · exact .inl ⟨b, s'', by rw [EStateM.run_bind, hr]; exact hr', hq⟩
    · exact .inr ⟨s'', by rw [EStateM.run_bind, hr]; exact hr', hfull⟩
  · exact .inr ⟨s', by rw [EStateM.run_bind, hr], hfull⟩

/-- A sequence whose first part answers `a` answers as its second part does after `a`. -/
theorem AnswersUnlessFull.bind_of_ok {k : α → SpaceM β} {R : β → Space → Prop} {a : α}
    {s' : Space} (hm : m.run s = .ok a s') (hk : AnswersUnlessFull (k a) s' R) :
    AnswersUnlessFull (m >>= k) s R := by
  unfold AnswersUnlessFull at hk ⊢
  rw [EStateM.run_bind, hm]
  exact hk

/-- Two computations that run the same from `s` answer the same. -/
theorem AnswersUnlessFull.of_run_eq {m' : SpaceM α} (hm : m.run s = m'.run s)
    (h : AnswersUnlessFull m' s P) : AnswersUnlessFull m s P := by
  unfold AnswersUnlessFull
  rw [hm]
  exact h

theorem AnswersUnlessFull.map (f : α → β) {R : β → Space → Prop} (hm : AnswersUnlessFull m s P)
    (hf : ∀ a s', m.run s = .ok a s' → P a s' → R (f a) s') : AnswersUnlessFull (f <$> m) s R := by
  rcases hm with ⟨a, s', hr, hp⟩ | ⟨s', hr, hfull⟩
  · exact .inl ⟨f a, s', run_map_ok f hr, hf a s' hr hp⟩
  · exact .inr ⟨s', run_map_error f hr, hfull⟩

end Answers

/-! ### Equations between computations -/

/-- Both sides of an equation, the left one first, each on the space the one before left. -/
def bothSides (lhs rhs : SpaceM Value) : SpaceM (Value × Value) := do
  let l ← lhs
  let r ← rhs
  pure (l, r)

/-- The two sides of an equation denote the same value whichever of them is evaluated first
    from `s`, unless the evaluation finds the space full. -/
def Equates (lhs rhs : SpaceM Value) (s : Space) : Prop :=
  AnswersUnlessFull (bothSides lhs rhs) s (fun lr _ => lr.1 = lr.2) ∧
    AnswersUnlessFull (bothSides rhs lhs) s (fun lr _ => lr.1 = lr.2)

/-- Both sides answer, unless the space is full, when the left side does and the right side
    does after every answer of the left. -/
theorem bothSides_answers {lhs rhs : SpaceM Value} {s : Space} {P : Value → Space → Prop}
    {R : Value × Value → Space → Prop} (hl : AnswersUnlessFull lhs s P)
    (hr : ∀ l s', lhs.run s = .ok l s' → P l s' → AnswersUnlessFull rhs s' fun r s'' => R (l, r) s'') :
    AnswersUnlessFull (bothSides lhs rhs) s R :=
  hl.bind fun l s' hrun hp => (hr l s' hrun hp).bind fun _ _ _ hR => answersUnlessFull_of_ok rfl hR

/-- An equation whose right side is a value: the left side answers it. -/
theorem equates_pure {lhs : SpaceM Value} {s : Space} {c : Value}
    (h : AnswersUnlessFull lhs s fun v _ => v = c) : Equates lhs (pure c) s := by
  constructor
  · exact bothSides_answers h fun _ _ _ hv => answersUnlessFull_of_ok rfl hv
  · refine bothSides_answers (P := fun v _ => v = c) (answersUnlessFull_of_ok rfl rfl) ?_
    rintro _ s' hc rfl
    cases hc
    exact h.mono fun _ _ _ hv => hv.symm

/-! ### Singleton classes -/

section Singletons

variable {s : Space}

/-- The singleton class of an entity of a well-formed space is made, or found, and is
    attached to the entity, unless the space is full. -/
theorem singletonClass_answers (hw : s.WellFormed) {x : Handle} (hx : s.Live x) :
    AnswersUnlessFull (singletonClass x) s fun t s' =>
      Grows s s' ∧ ∃ et, s'.get? t = some et ∧ et.kind = .single x := by
  obtain ⟨e, he⟩ := live_iff_get?.1 hx
  cases ht : e.singleton with
  | some t =>
    -- a singleton class made before is attached to the entity
    obtain ⟨-, et, het, hk⟩ := (hw.slot x e he).singleton t ht
    exact answersUnlessFull_of_ok (singletonClass_run_of_some he ht) ⟨.refl s, et, het, hk⟩
  | none =>
    by_cases hc : s.size < capacity
    · refine answersUnlessFull_of_ok (by rw [singletonClass_run_of_none he ht, if_pos hc])
        ⟨.single (.attach he ht), ⟨.single x, none, none⟩, ?_, rfl⟩
      -- the new singleton class takes the next free slot, after the entity
      have hne : x ≠ ⟨s.size⟩ := fun h => Nat.lt_irrefl _ (get?_lt (h ▸ he))
      rw [get?_attach (get?_lt he), if_neg hne, if_pos rfl]
    · exact .inr ⟨s, by rw [singletonClass_run_of_none he ht, if_neg hc], Nat.le_of_not_lt hc⟩

/-- An entity whose superclass can be asked is no instance. -/
theorem not_inst_of_superclassOfHandle {x : Handle} {r : Option Handle} {s' : Space}
    (hr : (superclassOfHandle x).run s = .ok r s') {e : Entity} (he : s.get? x = some e) :
    ∀ c, e.kind ≠ .inst c := by
  intro c hk
  rw [superclassOfHandle_run_inst he hk] at hr
  cases hr

/-- The superclass of the singleton class `t` of `x` is found from the superclass `r` of
    `x`: its singleton class, or `Class` above the root class. `r` is an answer given in an
    earlier space, which stays. -/
theorem superclassOfHandle_singleton {x t : Handle} {r : Option Handle} {s₀ s₁ : Space}
    (hr : (superclassOfHandle x).run s₀ = .ok r s₁) (hx : s₁.Extends s) (hw : s.WellFormed)
    {et : Entity} (ht : s.get? t = some et) (hk : et.kind = .single x) :
    (superclassOfHandle t).run s = (singletonAbove r).run s := by
  have hstable := superclassOfHandle_stable hr hx
  -- the entity was asked for its superclass, so it is no instance, and it comes before its
  -- singleton class
  obtain ⟨hlt, ex, hex, -⟩ := (hw.slot t et ht).attached x hk
  obtain ⟨e₀, he₀⟩ : ∃ e₀, s₀.get? x = some e₀ := by
    cases he : s₀.get? x with
    | none => rw [superclassOfHandle_run_of_get?_none he] at hr; cases hr
    | some e₀ => exact ⟨e₀, rfl⟩
  have hgrown : s₀.Extends s :=
    (after_of_ok hr ▸ after_superclassOfHandle_grows x s₀).extends.trans hx
  obtain ⟨ex', hex', hkx⟩ := hgrown x e₀ he₀
  rw [hex] at hex'
  cases hex'
  have hka : ∀ c, ex.kind ≠ .inst c := fun c hc =>
    not_inst_of_superclassOfHandle hr he₀ c (hkx.kind ▸ hc)
  rw [superclassOfHandle_run_single_bind ht hk hex hka hlt, EStateM.run_bind, hstable]

/-- The identity descriptor of an entity is a singleton class attached to it, unless the
    space is full. -/
theorem identityDescriptor_answers (hw : s.WellFormed) {x : Handle} (hx : s.Live x) :
    AnswersUnlessFull (identityDescriptor (.object x)) s fun v s' =>
      Grows s s' ∧ ∃ t et, v = .object t ∧ s'.get? t = some et ∧ et.kind = .single x :=
  .of_run_eq (identityDescriptor_run_object s x) <|
    (singletonClass_answers hw hx).map _ fun t _ _ ⟨hg, et, ht, hk⟩ => ⟨hg, t, et, rfl, ht, hk⟩

/-- The superclass of a value, asked as the superclass of its handle. -/
theorem superclassOfHandle_of_superclassOf {x : Handle} {v : Value} {s₁ : Space}
    (h : (superclassOf (.object x)).run s = .ok v s₁) :
    ∃ r, (superclassOfHandle x).run s = .ok r s₁ ∧ r.elim .nil .object = v := by
  rw [superclassOf_run_map] at h
  exact run_map_eq_ok h

/-- Where the superclass of `x` is known to be `p`, the superclass of the singleton class of
    `x` is asked as the identity descriptor of `p`. -/
theorem superclassOf_singleton_run {x t p : Handle} {s₀ s₁ : Space}
    (hr : (superclassOfHandle x).run s₀ = .ok (some p) s₁) (hx : s₁.Extends s) (hw : s.WellFormed)
    {et : Entity} (ht : s.get? t = some et) (hk : et.kind = .single x) :
    (superclassOf (.object t)).run s = (identityDescriptor (.object p)).run s := by
  rw [superclassOf_run_map, identityDescriptor_run_object]
  -- both ask for the singleton class of `p`, and give it as a value
  have hrun : (superclassOfHandle t).run s = (some <$> singletonClass p).run s :=
    superclassOfHandle_singleton hr hx hw ht hk
  cases hs : (singletonClass p).run s with
  | ok u s' =>
    rw [run_map_ok _ hs, run_map_ok _ (hrun.trans (run_map_ok _ hs))]
    rfl
  | error f s' => rw [run_map_error _ hs, run_map_error _ (hrun.trans (run_map_error _ hs))]

/-- Above the root class, the superclass of the singleton class is `Class`. -/
theorem superclassOf_singleton_root {x t : Handle} {s₀ s₁ : Space}
    (hr : (superclassOfHandle x).run s₀ = .ok none s₁) (hx : s₁.Extends s) (hw : s.WellFormed)
    {et : Entity} (ht : s.get? t = some et) (hk : et.kind = .single x) :
    (superclassOf (.object t)).run s = .ok (.object .classClass) s := by
  rw [superclassOf_run_map, run_map_ok _ ((superclassOfHandle_singleton hr hx hw ht hk).trans rfl)]
  rfl

end Singletons

/-! ### The laws -/

section Laws

variable {s : Space} (hw : s.WellFormed) {x : Handle} (hx : s.Live x)
include hw hx

/-- The class of a singleton class is `Class`. -/
theorem classOf_identityDescriptor :
    AnswersUnlessFull (identityDescriptor (.object x) >>= classOf) s
      fun v _ => v = .object .classClass :=
  (identityDescriptor_answers hw hx).bind fun _ _ _ ⟨_, _, et, hv, ht, hk⟩ => by
    subst hv
    exact answersUnlessFull_of_ok (by rw [classOf_run_object ht, hk]) rfl

/-- The superclass of the singleton class of an instance is the class of the instance. -/
theorem superclassOf_identityDescriptor_inst {e : Entity} {k : Handle} (he : s.get? x = some e)
    (hk : e.kind = .inst k) :
    AnswersUnlessFull (identityDescriptor (.object x) >>= superclassOf) s
      fun v _ => v = .object k :=
  (identityDescriptor_answers hw hx).bind fun _ s₁ _ ⟨hg, _, et, hv, ht, hkt⟩ => by
    subst hv
    -- the instance is still an instance of the same class
    obtain ⟨e', he', hx'⟩ := hg.extends x e he
    refine answersUnlessFull_of_ok (u := s₁) ?_ rfl
    rw [superclassOf_run_object, superclassOfHandle_run_single_inst ht hkt he' (hx'.kind.trans hk)]
    rfl

/-- Above the root class, the superclass of the singleton class is `Class`. -/
theorem superclassOf_identityDescriptor_root {s₁ : Space}
    (hr : (superclassOfHandle x).run s = .ok none s₁) :
    AnswersUnlessFull (identityDescriptor (.object x) >>= superclassOf) s₁
      fun v _ => v = .object .classClass := by
  have hg : Grows s s₁ := after_of_ok hr ▸ after_superclassOfHandle_grows x s
  refine (identityDescriptor_answers (hg.wellFormed hw) (hg.extends.size_le.trans_lt' hx)).bind
    fun _ s₂ _ ⟨hg₂, _, et, hv, ht, hk⟩ => ?_
  subst hv
  exact answersUnlessFull_of_ok (superclassOf_singleton_root hr hg₂.extends
    ((hg.trans hg₂).wellFormed hw) ht hk) rfl

/-- The superclass of the singleton class is the singleton class of the superclass, whichever
    of the two is asked first. -/
theorem superclassOf_identityDescriptor_equates {p : Handle} {s₁ : Space}
    (hr : (superclassOfHandle x).run s = .ok (some p) s₁) :
    Equates (identityDescriptor (.object x) >>= superclassOf) (identityDescriptor (.object p)) s₁ := by
  have hg : Grows s s₁ := after_of_ok hr ▸ after_superclassOfHandle_grows x s
  have hw₁ : s₁.WellFormed := hg.wellFormed hw
  have hx₁ : s₁.Live x := hg.extends.size_le.trans_lt' hx
  have hp₁ : s₁.Live p := superclassOfHandle_live hw hr p rfl
  constructor
  · -- the singleton class of `x` first: its superclass makes the singleton class of `p`,
    -- which the right side then finds
    refine bothSides_answers (P := fun v s₃ => (identityDescriptor (.object p)).run s₃ = .ok v s₃)
      ((identityDescriptor_answers hw₁ hx₁).bind fun _ s₂ _ ⟨hg₂, _, et, hv, ht, hk⟩ => ?_)
      fun l s₃ _ hl => answersUnlessFull_of_ok hl rfl
    subst hv
    exact .of_run_eq (superclassOf_singleton_run hr hg₂.extends (hg₂.wellFormed hw₁) ht hk)
      ((identityDescriptor_answers (hg₂.wellFormed hw₁) (hg₂.extends.size_le.trans_lt' hp₁)).mono
        fun v s₃ hrun _ => identityDescriptor_stable hrun (.refl s₃))
  · -- the singleton class of `p` first, which the superclass of the singleton class of `x`
    -- then finds
    refine bothSides_answers
      (P := fun v s₂ => Grows s₁ s₂ ∧ ∀ s₃, s₂.Extends s₃ →
        (identityDescriptor (.object p)).run s₃ = .ok v s₃)
      ((identityDescriptor_answers hw₁ hp₁).mono fun v s₂ hrun ⟨hg₂, _⟩ =>
        ⟨hg₂, fun s₃ hx₃ => identityDescriptor_stable hrun hx₃⟩)
      fun u s₂ _ ⟨hg₂, hstay⟩ => ?_
    refine (identityDescriptor_answers (hg₂.wellFormed hw₁) (hg₂.extends.size_le.trans_lt' hx₁)).bind
      fun _ s₃ _ ⟨hg₃, _, et, hv, ht, hk⟩ => ?_
    subst hv
    refine answersUnlessFull_of_ok (u := s₃) ?_ (show u = u from rfl)
    rw [superclassOf_singleton_run hr (hg₂.trans hg₃).extends ((hg₂.trans hg₃).wellFormed hw₁) ht hk,
      hstay s₃ hg₃.extends]

end Laws

/-- In every space reached by calls, for every entity `x`: the class of its singleton class
    is `Class`; the superclass of the singleton class of an instance is the class of the
    instance; and the superclass of the singleton class of any other entity is the singleton
    class of the entity's superclass, or `Class` above the root class. Each equation holds
    whichever of its sides is evaluated first, from the space in which the superclass of `x`
    was asked, unless the space is full. -/
theorem identityDescriptor_laws (calls : List Call) (x : Handle)
    (hx : (initial.runCalls calls).Live x) :
    Equates (identityDescriptor (.object x) >>= classOf) (pure (.object .classClass))
        (initial.runCalls calls) ∧
      (∀ k e, (initial.runCalls calls).get? x = some e → e.kind = .inst k →
        Equates (identityDescriptor (.object x) >>= superclassOf) (pure (.object k))
          (initial.runCalls calls)) ∧
      (∀ p s₁, (superclassOf (.object x)).run (initial.runCalls calls) = .ok (.object p) s₁ →
        Equates (identityDescriptor (.object x) >>= superclassOf) (identityDescriptor (.object p))
          s₁) ∧
      (∀ s₁, (superclassOf (.object x)).run (initial.runCalls calls) = .ok .nil s₁ →
        Equates (identityDescriptor (.object x) >>= superclassOf) (pure (.object .classClass))
          s₁) := by
  have hw := wellFormed_initial.runCalls calls
  refine ⟨equates_pure (classOf_identityDescriptor hw hx),
    fun k e he hk => equates_pure (superclassOf_identityDescriptor_inst hw hx he hk),
    fun p s₁ hp => ?_, fun s₁ hn => ?_⟩
  · -- a superclass given as a handle is the superclass of the entity
    obtain ⟨r, hr, hv⟩ := superclassOfHandle_of_superclassOf hp
    cases r with
    | none => cases hv
    | some p' =>
      cases hv
      exact superclassOf_identityDescriptor_equates hw hx hr
  · -- `nil` is the superclass of the root class only
    obtain ⟨r, hr, hv⟩ := superclassOfHandle_of_superclassOf hn
    cases r with
    | none => exact equates_pure (superclassOf_identityDescriptor_root hw hx hr)
    | some p' => cases hv

/-- In a fresh space, the superclass of the singleton class of `Object` is the singleton
    class of `BasicObject`, whichever is asked first. -/
theorem object_singleton_superclass :
    (initial.runCalls []).Live .object ∧
      Equates (identityDescriptor (.object .object) >>= superclassOf)
        (identityDescriptor (.object .basicObject)) (initial.runCalls []) := by
  have hlive : (initial.runCalls []).Live .object := by
    show 1 < initial.size
    decide
  have hsuper : (superclassOf (.object .object)).run (initial.runCalls []) =
      .ok (.object .basicObject) (initial.runCalls []) := by
    rw [superclassOf_run_object, superclassOfHandle_run_cls (e := ⟨.cls (some .basicObject),
      some "Object", none⟩) (by rw [runCalls_nil, get?_initial]; rfl) rfl]
    rfl
  exact ⟨hlive, (identityDescriptor_laws [] .object hlive).2.2.1 .basicObject _ hsuper⟩

/-- The laws hold only unless the space is full: calls can fill every slot of a fresh space
    with anonymous classes, and there the singleton class of `Object`, which none of them
    made, has no free slot to be made in, so asking for its class fails. -/
theorem object_identityDescriptor_exhausted :
    ∃ calls, (initial.runCalls calls).Live .object ∧
      (identityDescriptor (.object .object) >>= classOf).run (initial.runCalls calls) =
        .error .exhausted (initial.runCalls calls) := by
  obtain ⟨hfull, hobj⟩ := initial_filled
  refine ⟨List.replicate (capacity - builtinCount) (.defineClass none none), ?_, ?_⟩
  · show Handle.object.slot < _
    rw [hfull]
    decide
  · have he : (initial.runCalls (List.replicate (capacity - builtinCount)
        (.defineClass none none))).get? .object =
        some ⟨.cls (some .basicObject), some "Object", none⟩ := by
      rw [hobj, get?_initial]
      rfl
    rw [EStateM.run_bind, identityDescriptor_run_object,
      run_map_error _ (by rw [singletonClass_run_of_none he rfl, if_neg (by rw [hfull]; omega)])]

end Space

end ReflectCheck
