import Mathlib.Data.Prod.Lex
import ReflectCheck.Proofs.Space.Descriptors

/-!
# Superclass chains end

Asking for the superclass again and again, each time of the answer before and on the space
the question before left, climbs from any value to `BasicObject` and then `nil`, or stops
at a fault. The chain does not climb through slots: the superclass of a singleton class
is a singleton class too, often one made on the way at a slot higher than any before.

What decreases is the *tower* of an entity (`Space.Tower`): an entity is a singleton class
of a singleton class of … (`d` times) of a base entity `b` that is a class or an instance.
One step up the chain (`Space.Climb`) goes from the tower of height `d` over `b` to

* height `d - 1` over the class of `b`, when `b` is an instance;
* height `d` over the superclass of `b`, when `b` is a class with one;
* height `d - 1` over `Class`, when `b` is the root class;

so the pair of the height and the slot of the base decreases in lexicographic order
(`Space.Climb.rank_lt`), as a superclass sits at an earlier slot than its class.

* `Space.superclassOfHandle_tower`: the step, in every well-formed space;
* `Space.superclassChain_tower`: the chain from every entity other than an instance reaches
  `BasicObject` and then `nil`, meeting no entity twice, unless the space fills up;
* `Space.superclassChain_ends`: for every space reached by calls and every value, the chain
  reaches `nil` or a fault; and the chain from the singleton class of `BasicObject` goes
  through `Class`, `Module` and `Object`.
-/

namespace ReflectCheck

namespace Space

/-! ### Chains -/

/-- The values `v₀ = v, v₁, …, vₙ` of the superclass chain from `v`: each the superclass of
    the one before, asked on the space the question before left. -/
def superclassChain : Nat → Value → SpaceM (List Value)
  | 0, v => pure [v]
  | n + 1, v => do
    let w ← superclassOf v
    let ws ← superclassChain n w
    pure (v :: ws)

theorem superclassChain_run_succ (n : Nat) (v : Value) (s : Space) :
    (superclassChain (n + 1) v).run s =
      (superclassOf v >>= fun w => superclassChain n w >>= fun ws => pure (v :: ws)).run s :=
  rfl

theorem superclassChain_run_ok {n : Nat} {v w : Value} {ws : List Value} {s s₁ s₂ : Space}
    (h : (superclassOf v).run s = .ok w s₁) (hrest : (superclassChain n w).run s₁ = .ok ws s₂) :
    (superclassChain (n + 1) v).run s = .ok (v :: ws) s₂ := by
  rw [superclassChain_run_succ, EStateM.run_bind, h]
  simp only [EStateM.run_bind, hrest]
  rfl

theorem superclassChain_run_error {n : Nat} {v : Value} {f : Fault} {s s₁ : Space}
    (h : (superclassOf v).run s = .error f s₁) :
    (superclassChain (n + 1) v).run s = .error f s₁ := by
  rw [superclassChain_run_succ, EStateM.run_bind, h]

/-! ### Towers of singleton classes -/

/-- `h` is a singleton class nested `d` times over the entity `b`, which is a class or an
    instance. -/
inductive Tower (s : Space) : Handle → Nat → Handle → Prop where
  /-- A class or an instance is its own base. -/
  | base {b : Handle} {e : Entity} (he : s.get? b = some e) (hk : ∀ a, e.kind ≠ .single a) :
      Tower s b 0 b
  /-- The singleton class of an entity is one level above it. -/
  | up {h a b : Handle} {e : Entity} {d : Nat} (he : s.get? h = some e) (hk : e.kind = .single a)
      (ha : Tower s a d b) : Tower s h (d + 1) b

section Towers

variable {s : Space}

theorem Tower.live {h b : Handle} {d : Nat} (ht : Tower s h d b) : s.Live h := by
  cases ht with
  | base he => exact get?_lt he
  | up he => exact get?_lt he

theorem Tower.eq_of_zero {h b : Handle} (ht : Tower s h 0 b) : h = b := by
  cases ht
  rfl

/-- The base of a tower is a class or an instance. -/
theorem Tower.base_get {h b : Handle} {d : Nat} (ht : Tower s h d b) :
    ∃ e, s.get? b = some e ∧ ∀ a, e.kind ≠ .single a := by
  induction ht with
  | base he hk => exact ⟨_, he, hk⟩
  | up _ _ _ ih => exact ih

/-- Towers stand as the space grows, since kinds never change. -/
theorem Tower.mono {s' : Space} (hx : s.Extends s') {h b : Handle} {d : Nat}
    (ht : Tower s h d b) : Tower s' h d b := by
  induction ht with
  | base he hk =>
    obtain ⟨e', he', hx'⟩ := hx _ _ he
    exact .base he' (hx'.kind ▸ hk)
  | up he hk _ ih =>
    obtain ⟨e', he', hx'⟩ := hx _ _ he
    exact .up he' (hx'.kind.trans hk) ih

/-- An entity has one tower. -/
theorem Tower.functional {h b b' : Handle} {d d' : Nat} (ht : Tower s h d b)
    (ht' : Tower s h d' b') : d = d' ∧ b = b' := by
  induction ht generalizing d' b' with
  | base he hk =>
    cases ht' with
    | base => exact ⟨rfl, rfl⟩
    | up he' hk' =>
      obtain rfl := Option.some.inj (he.symm.trans he')
      exact absurd hk' (hk _)
  | up he hk _ ih =>
    cases ht' with
    | base he' hk' =>
      obtain rfl := Option.some.inj (he.symm.trans he')
      exact absurd hk (hk' _)
    | up he' hk' ha' =>
      -- both are singleton classes of the same entity
      obtain rfl := Option.some.inj (he.symm.trans he')
      obtain rfl := Kind.single.inj (hk.symm.trans hk')
      obtain ⟨rfl, rfl⟩ := ih ha'
      exact ⟨rfl, rfl⟩

/-- Every entity of a well-formed space has a tower: a singleton class is attached to an
    earlier entity. -/
theorem WellFormed.exists_tower (hw : s.WellFormed) {h : Handle} (hh : s.Live h) :
    ∃ d b, Tower s h d b := by
  induction hn : h.slot using Nat.strong_induction_on generalizing h with
  | _ n ih =>
    obtain ⟨e, he⟩ := live_iff_get?.1 hh
    by_cases hs : ∃ a, e.kind = .single a
    · obtain ⟨a, hk⟩ := hs
      obtain ⟨hlt, ea, hea, -⟩ := (hw.slot h e he).attached a hk
      obtain ⟨d, b, ht⟩ := ih a.slot (hn ▸ hlt) (get?_lt hea) rfl
      exact ⟨d + 1, b, .up he hk ht⟩
    · exact ⟨0, h, .base he fun a hk => hs ⟨a, hk⟩⟩

/-- The singleton class of the top of a tower is one level above it, unless the space is
    full. -/
theorem singletonClass_tower (hw : s.WellFormed) {t b : Handle} {d : Nat} (ht : Tower s t d b) :
    AnswersUnlessFull (singletonClass t) s fun u s' => Grows s s' ∧ Tower s' u (d + 1) b :=
  (singletonClass_answers hw ht.live).mono fun _ _ _ ⟨hg, _, hu, hk⟩ =>
    ⟨hg, .up hu hk (ht.mono hg.extends)⟩

end Towers

/-! ### One step up -/

/-- One step up the superclass chain, from the tower of height `d` over `b` to the tower of
    height `d'` over `b'`. -/
inductive Climb (s : Space) : Nat → Handle → Nat → Handle → Prop where
  /-- Above an instance: its class, one level lower. -/
  | inst {d : Nat} {b k : Handle} {e : Entity} (he : s.get? b = some e) (hk : e.kind = .inst k) :
      Climb s (d + 1) b d k
  /-- Above a class with a superclass: the superclass, at the same level. -/
  | cls {d : Nat} {b p : Handle} {e : Entity} (he : s.get? b = some e)
      (hk : e.kind = .cls (some p)) : Climb s d b d p
  /-- Above the root class: `Class`, one level lower. -/
  | root {d : Nat} {b : Handle} {e : Entity} (he : s.get? b = some e) (hk : e.kind = .cls none) :
      Climb s (d + 1) b d .classClass

/-- The order in which chains climb: by the height of the tower, then by the slot of its
    base. -/
def rank (d : Nat) (b : Handle) : ℕ ×ₗ ℕ := toLex (d, b.slot)

section Climbing

variable {s : Space}

/-- Every step up lowers the rank: a superclass sits at an earlier slot than its class. -/
theorem Climb.rank_lt (hw : s.WellFormed) {d d' : Nat} {b b' : Handle} (hc : Climb s d b d' b') :
    rank d' b' < rank d b := by
  rw [rank, rank, Prod.Lex.toLex_lt_toLex]
  cases hc with
  | inst => exact .inl (Nat.lt_succ_self _)
  | cls he hk => exact .inr ⟨rfl, ((hw.slot _ _ he).superclass _ hk).1⟩
  | root => exact .inl (Nat.lt_succ_self _)

/-- A step up lands on a tower over a class. -/
theorem Climb.isClass (hw : s.WellFormed) {d d' : Nat} {b b' : Handle} (hc : Climb s d b d' b') :
    s.IsClass b' := by
  cases hc with
  | inst he hk => exact ((hw.slot _ _ he).cls _ hk).2.1
  | cls he hk => exact ((hw.slot _ _ he).superclass _ hk).2.1
  | root =>
    obtain ⟨e, he, hk, -⟩ := hw.builtins 3 "Class" (some .module) rfl
    exact ⟨e, he, by rw [hk]; rfl⟩

/-- A step from one level higher: a step from the level below, one level higher, or the
    first step above an instance or the root class. -/
theorem Climb.of_succ {d d' : Nat} {b b' : Handle} (hc : Climb s (d + 1) b d' b') :
    (∃ d'', d' = d'' + 1 ∧ Climb s d b d'' b') ∨
      d = 0 ∧ d' = 0 ∧ ∃ e, s.get? b = some e ∧
        (e.kind = .inst b' ∨ e.kind = .cls none ∧ b' = .classClass) := by
  cases hc with
  | inst he hk =>
    cases d with
    | zero => exact .inr ⟨rfl, rfl, _, he, .inl hk⟩
    | succ d => exact .inl ⟨d, rfl, .inst he hk⟩
  | cls he hk => exact .inl ⟨d, rfl, .cls he hk⟩
  | root he hk =>
    cases d with
    | zero => exact .inr ⟨rfl, rfl, _, he, .inr ⟨hk, rfl⟩⟩
    | succ d => exact .inl ⟨d, rfl, .root he hk⟩

/-- The top of a tower that can climb is no instance. -/
theorem Tower.not_inst {h b : Handle} {d d' : Nat} {b' : Handle} (ht : Tower s h d b)
    (hc : Climb s d b d' b') {e : Entity} (he : s.get? h = some e) : ∀ c, e.kind ≠ .inst c := by
  intro c hk
  cases ht with
  | base he₀ =>
    -- at level 0 only a class with a superclass climbs
    cases hc with
    | cls he' hk' =>
      obtain rfl := Option.some.inj (he.symm.trans he')
      rw [hk] at hk'
      cases hk'
  | up he₀ hk₀ =>
    obtain rfl := Option.some.inj (he.symm.trans he₀)
    rw [hk] at hk₀
    cases hk₀

/-- A tower climbs, or it is the root class itself. -/
theorem Tower.climbs {h b : Handle} {d : Nat} (ht : Tower s h d b) (hb : d = 0 → s.IsClass b) :
    (d = 0 ∧ ∃ e, s.get? b = some e ∧ e.kind = .cls none) ∨ ∃ d' b', Climb s d b d' b' := by
  obtain ⟨e, he, hns⟩ := ht.base_get
  cases hk : e.kind with
  | cls sc =>
    cases sc with
    | some p => exact .inr ⟨d, p, .cls he hk⟩
    | none =>
      cases d with
      | zero => exact .inl ⟨rfl, e, he, hk⟩
      | succ d => exact .inr ⟨d, _, .root he hk⟩
  | inst k =>
    cases d with
    | zero =>
      obtain ⟨e', he', hc⟩ := hb rfl
      cases Option.some.inj (he.symm.trans he')
      rw [hk] at hc
      cases hc
    | succ d => exact .inr ⟨d, k, .inst he hk⟩
  | single a => exact absurd hk (hns a)

/-- The superclass of the top of a tower is the top of the tower one step up, unless the
    space is full. -/
theorem superclassOfHandle_tower (hw : s.WellFormed) {h b : Handle} {d : Nat}
    (ht : Tower s h d b) {d' : Nat} {b' : Handle} (hc : Climb s d b d' b') :
    AnswersUnlessFull (superclassOfHandle h) s fun r s' =>
      Grows s s' ∧ ∃ t, r = some t ∧ Tower s' t d' b' := by
  -- induction on the tower, as the superclass of a singleton class is asked of the entity it
  -- is attached to
  induction ht generalizing d' b' with
  | base he hk =>
    -- a class or an instance: only a class with a superclass climbs at level 0
    cases hc with
    | cls he' hk' =>
      obtain rfl := Option.some.inj (he.symm.trans he')
      obtain ⟨-, ⟨ep, hep, hcp⟩, -⟩ := (hw.slot _ _ he).superclass _ hk'
      refine answersUnlessFull_of_ok (superclassOfHandle_run_cls he hk') ⟨.refl s, _, rfl, ?_⟩
      obtain ⟨sc, hsc⟩ := Kind.isClass_iff.1 hcp
      exact .base hep fun a ha => by rw [hsc] at ha; cases ha
  | @up h a b e d he hk ha ih =>
    obtain ⟨ea, hea⟩ := live_iff_get?.1 ha.live
    obtain ⟨hlt, -⟩ := (hw.slot h e he).attached a hk
    rcases hc.of_succ with ⟨d'', rfl, hc'⟩ | ⟨rfl, rfl, eb, heb, hinst | ⟨hroot, rfl⟩⟩
    · -- the entity below climbs first, and the singleton class of its superclass is one
      -- level higher
      have hka := ha.not_inst hc' hea
      refine .of_run_eq (superclassOfHandle_run_single_bind he hk hea hka hlt) ?_
      refine (ih hc').bind fun _ s₁ _ ⟨hg₁, t, hr, ht₁⟩ => ?_
      subst hr
      exact (singletonClass_tower (hg₁.wellFormed hw) ht₁).map _ fun _ s₂ _ ⟨hg₂, ht₂⟩ =>
        ⟨hg₁.trans hg₂, _, rfl, ht₂⟩
    · -- the singleton class of an instance: its class
      obtain rfl := ha.eq_of_zero
      obtain rfl := Option.some.inj (hea.symm.trans heb)
      obtain ⟨-, ⟨ek, hek, hck⟩, -⟩ := (hw.slot _ _ hea).cls _ hinst
      obtain ⟨sc, hsc⟩ := Kind.isClass_iff.1 hck
      exact answersUnlessFull_of_ok (superclassOfHandle_run_single_inst he hk hea hinst)
        ⟨.refl s, _, rfl, .base hek fun a' h' => by rw [hsc] at h'; cases h'⟩
    · -- the singleton class of the root class: `Class`
      obtain rfl := ha.eq_of_zero
      obtain rfl := Option.some.inj (hea.symm.trans heb)
      have hka : ∀ c, ea.kind ≠ .inst c := fun c h' => by rw [hroot] at h'; cases h'
      obtain ⟨ec, hec, hkc, -⟩ := hw.builtins 3 "Class" (some .module) rfl
      refine .of_run_eq (superclassOfHandle_run_single_bind he hk hea hka hlt) ?_
      refine answersUnlessFull_of_ok ?_ ⟨.refl s, _, rfl, .base hec fun a' h' => by
        rw [hkc] at h'; cases h'⟩
      rw [EStateM.run_bind, superclassOfHandle_run_cls hea hroot]
      rfl

/-- The superclass of the top of a tower, as a value. -/
theorem superclassOf_tower (hw : s.WellFormed) {h b : Handle} {d : Nat} (ht : Tower s h d b)
    {d' : Nat} {b' : Handle} (hc : Climb s d b d' b') :
    AnswersUnlessFull (superclassOf (.object h)) s fun v s' =>
      Grows s s' ∧ ∃ t, v = .object t ∧ Tower s' t d' b' :=
  .of_run_eq (superclassOf_run_map s h) <|
    (superclassOfHandle_tower hw ht hc).map _ fun _ _ _ ⟨hg, t, hr, ht'⟩ =>
      ⟨hg, t, by rw [hr]; rfl, ht'⟩

end Climbing

/-! ### Whole chains -/

section Chains

variable {s : Space}

/-- The chain from the top of a tower over a class, or from a tower at least one level high,
    reaches `BasicObject` and then `nil`, meeting entities of lower and lower rank and so none
    twice; unless the space fills up on the way. -/
theorem superclassChain_tower (hw : s.WellFormed) {h b : Handle} {d : Nat} (ht : Tower s h d b)
    (hb : d = 0 → s.IsClass b) :
    ∃ n, AnswersUnlessFull (superclassChain n (.object h)) s fun ws s' => Grows s s' ∧
      ∃ hs : List Handle, ws = (hs ++ [Handle.basicObject]).map .object ++ [.nil] ∧
        (hs ++ [Handle.basicObject]).Nodup ∧
        ∀ u ∈ hs ++ [Handle.basicObject], ∃ d' b', Tower s' u d' b' ∧ rank d' b' ≤ rank d b := by
  -- well-founded induction on the rank of the tower, which every step up lowers
  suffices H : ∀ r : ℕ ×ₗ ℕ, ∀ (s : Space) (h b : Handle) (d : Nat), rank d b = r →
      s.WellFormed → Tower s h d b → (d = 0 → s.IsClass b) →
      ∃ n, AnswersUnlessFull (superclassChain n (.object h)) s fun ws s' => Grows s s' ∧
        ∃ hs : List Handle, ws = (hs ++ [Handle.basicObject]).map .object ++ [.nil] ∧
          (hs ++ [Handle.basicObject]).Nodup ∧
          ∀ u ∈ hs ++ [Handle.basicObject], ∃ d' b', Tower s' u d' b' ∧ rank d' b' ≤ rank d b from
    H _ s h b d rfl hw ht hb
  intro r
  induction r using WellFoundedLT.induction with
  | _ r ih =>
  intro s h b d hr hw ht hb
  subst hr
  rcases ht.climbs hb with ⟨rfl, e, he, hroot⟩ | ⟨d', b', hc⟩
  · -- the root class, `BasicObject`: its superclass is `nil`
    obtain rfl := ht.eq_of_zero
    obtain rfl : h = .basicObject := (hw.slot h e he).root hroot
    refine ⟨1, answersUnlessFull_of_ok (superclassChain_run_ok ?_ rfl)
      ⟨.refl s, [], rfl, by simp, fun u hu => ?_⟩⟩
    · rw [superclassOf_run_object, superclassOfHandle_run_cls he hroot]
      rfl
    · obtain rfl : u = .basicObject := by simpa using hu
      exact ⟨0, _, ht, le_refl _⟩
  · -- one step up, to a tower of lower rank, and the chain from there
    rcases superclassOf_tower hw ht hc with ⟨_, s₁, hrun, hg₁, t, rfl, ht₁⟩ | ⟨s₁, hrun, hfull⟩
    · obtain ⟨n, hn⟩ := ih _ (hc.rank_lt hw) s₁ t b' d' rfl (hg₁.wellFormed hw) ht₁
        fun _ => (hc.isClass hw).mono hg₁.extends
      refine ⟨n + 1, .of_run_eq (superclassChain_run_succ n _ s) (.bind_of_ok hrun
        (hn.bind fun _ s₂ _ ⟨hg₂, hs, hws, hnodup, hrank⟩ => answersUnlessFull_of_ok rfl
          ⟨hg₁.trans hg₂, h :: hs, by rw [hws]; rfl, ?_, ?_⟩))⟩
      · -- `h` is of a higher rank than every entity after it
        have ht₂ := ht.mono (hg₁.trans hg₂).extends
        refine List.nodup_cons.2 ⟨fun hmem => ?_, hnodup⟩
        obtain ⟨d'', b'', ht'', hle⟩ := hrank h hmem
        obtain ⟨rfl, rfl⟩ := ht₂.functional ht''
        exact absurd (hle.trans_lt (hc.rank_lt hw)) (lt_irrefl _)
      · intro u hu
        rcases List.mem_cons.1 hu with rfl | hu
        · exact ⟨d, b, ht.mono (hg₁.trans hg₂).extends, le_refl _⟩
        · obtain ⟨d'', b'', ht'', hle⟩ := hrank u hu
          exact ⟨d'', b'', ht'', hle.trans (hc.rank_lt hw).le⟩
    · exact ⟨1, .inr ⟨s₁, superclassChain_run_error hrun, hfull⟩⟩

/-- The superclass of a built-in class is the one the table of built-in classes gives. -/
theorem superclassOf_builtin (hw : s.WellFormed) {i : Nat} {name : String} {sc : Option Handle}
    (hb : builtinClasses[i]? = some (name, sc)) :
    (superclassOf (.object ⟨i⟩)).run s = .ok (sc.elim .nil .object) s := by
  obtain ⟨e, he, hk, -⟩ := hw.builtins i name sc hb
  rw [superclassOf_run_object, superclassOfHandle_run_cls he hk]

/-- The superclass of anything but a class or a singleton class is a fault: a value without a
    handle, a dangling handle and an instance have none. -/
theorem superclassOf_error {v : Value} (hv : ∀ h e, v = .object h → s.get? h = some e →
    ∃ c, e.kind = .inst c) : ∃ f s', (superclassOf v).run s = .error f s' := by
  cases v with
  | object h =>
    cases he : s.get? h with
    | none => exact ⟨_, _, by rw [superclassOf_run_object, superclassOfHandle_run_of_get?_none he]⟩
    | some e =>
      obtain ⟨c, hk⟩ := hv h e rfl he
      exact ⟨_, _, by rw [superclassOf_run_object, superclassOfHandle_run_inst he hk]⟩
  | nil | bool _ | int _ | str _ => exact ⟨_, _, rfl⟩

/-- A tower from an entity that is not an instance, if it has height zero, stands on a
    class. -/
theorem Tower.isClass_base {h b : Handle} {d : Nat} (ht : Tower s h d b) {e : Entity}
    (he : s.get? h = some e) (hnot : ∀ c, e.kind ≠ .inst c) : d = 0 → s.IsClass b := by
  rintro rfl
  obtain rfl := ht.eq_of_zero
  obtain ⟨e', he', hns⟩ := ht.base_get
  obtain rfl := Option.some.inj (he.symm.trans he')
  refine ⟨e, he, ?_⟩
  cases hk : e.kind with
  | cls => rfl
  | inst c => exact absurd hk (hnot c)
  | single a => exact absurd hk (hns a)

/-- In a well-formed space, the superclass chain from an entity other than an instance
    reaches `BasicObject` and then `nil`, meeting no entity twice, unless the space fills
    up on the way. -/
theorem superclassChain_climbs (hw : s.WellFormed) {h : Handle} {e : Entity}
    (he : s.get? h = some e) (hnot : ∀ c, e.kind ≠ .inst c) :
    ∃ n, AnswersUnlessFull (superclassChain n (.object h)) s
      fun ws _ => ∃ hs : List Handle, ws = (hs ++ [Handle.basicObject]).map .object ++ [.nil] ∧
        (hs ++ [Handle.basicObject]).Nodup := by
  obtain ⟨d, b, ht⟩ := hw.exists_tower (get?_lt he)
  obtain ⟨n, hn⟩ := superclassChain_tower hw ht (ht.isClass_base he hnot)
  exact ⟨n, hn.mono fun _ _ _ ⟨_, hs, hws, hnodup, _⟩ => ⟨hs, hws, hnodup⟩⟩

/-- In a well-formed space, the superclass chain from every value ends, in `nil` or in a
    fault, after finitely many steps. -/
theorem superclassChain_ends_somewhere (hw : s.WellFormed) (v : Value) :
    ∃ n, (∃ ws s', (superclassChain n v).run s = .ok ws s' ∧ ws.getLast? = some .nil) ∨
      ∃ f s', (superclassChain n v).run s = .error f s' := by
  by_cases hv : ∃ h e, v = .object h ∧ s.get? h = some e ∧ ∀ c, e.kind ≠ .inst c
  · obtain ⟨h, e, rfl, he, hnot⟩ := hv
    obtain ⟨n, hn⟩ := superclassChain_climbs hw he hnot
    rcases hn with ⟨ws, s', hrun, hs, rfl, -⟩ | ⟨s', hrun, -⟩
    · exact ⟨n, .inl ⟨_, s', hrun, by simp⟩⟩
    · exact ⟨n, .inr ⟨_, s', hrun⟩⟩
  · -- no superclass at all: the first step is a fault
    obtain ⟨f, s', hf⟩ := superclassOf_error (s := s) (v := v) fun h e hvh he => by
      by_contra hnot
      exact hv ⟨h, e, hvh, he, fun c hc => hnot ⟨c, hc⟩⟩
    exact ⟨1, .inr ⟨f, s', superclassChain_run_error hf⟩⟩

/-- In a well-formed space, the chain from the singleton class of `BasicObject` goes
    through `Class`, `Module`, `Object` and `BasicObject` to `nil`, making nothing. -/
theorem superclassChain_singleton_basicObject (hw : s.WellFormed) {t : Handle} {e : Entity}
    (he : s.get? t = some e) (hk : e.kind = .single .basicObject) :
    (superclassChain 5 (.object t)).run s =
      .ok [.object t, .object .classClass, .object .module, .object .object,
        .object .basicObject, .nil] s := by
  -- the singleton class of the root class is below `Class`, and the rest are built in
  obtain ⟨e₀, he₀, hk₀, -⟩ := hw.builtins 0 "BasicObject" none rfl
  have hroot : (superclassOfHandle .basicObject).run s = .ok none s :=
    superclassOfHandle_run_cls he₀ hk₀
  exact superclassChain_run_ok (superclassOf_singleton_root hroot (.refl _) hw he hk) <|
    superclassChain_run_ok (superclassOf_builtin hw (i := 3) rfl) <|
    superclassChain_run_ok (superclassOf_builtin hw (i := 2) rfl) <|
    superclassChain_run_ok (superclassOf_builtin hw (i := 1) rfl) <|
    superclassChain_run_ok (superclassOf_builtin hw (i := 0) rfl) rfl

end Chains

/-- In every space reached by calls, the superclass chain from every value reaches `nil`
    or a fault after finitely many steps, although each step may make a singleton class in a
    new slot. From every class, singleton class of an instance and singleton class nested to
    any depth, it reaches `BasicObject` and then `nil`, meeting no entity twice, unless the
    space fills up on the way; and from the singleton class of `BasicObject` it goes through
    `Class`, `Module` and `Object`. -/
theorem superclassChain_ends (calls : List Call) :
    (∀ v, ∃ n, (∃ ws s', (superclassChain n v).run (initial.runCalls calls) = .ok ws s' ∧
        ws.getLast? = some .nil) ∨
      ∃ f s', (superclassChain n v).run (initial.runCalls calls) = .error f s') ∧
    (∀ h e, (initial.runCalls calls).get? h = some e → (∀ c, e.kind ≠ .inst c) →
      ∃ n, AnswersUnlessFull (superclassChain n (.object h)) (initial.runCalls calls)
        fun ws _ => ∃ hs : List Handle, ws = (hs ++ [Handle.basicObject]).map .object ++ [.nil] ∧
          (hs ++ [Handle.basicObject]).Nodup) ∧
    ∀ t e, (initial.runCalls calls).get? t = some e → e.kind = .single .basicObject →
      (superclassChain 5 (.object t)).run (initial.runCalls calls) =
        .ok [.object t, .object .classClass, .object .module, .object .object,
          .object .basicObject, .nil] (initial.runCalls calls) := by
  have hw := wellFormed_initial.runCalls calls
  exact ⟨superclassChain_ends_somewhere hw, fun _ _ he hnot => superclassChain_climbs hw he hnot,
    fun _ _ he hk => superclassChain_singleton_basicObject hw he hk⟩

end Space

end ReflectCheck
