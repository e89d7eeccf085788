import ReflectCheck.Space.Reflect

/-!
# What each operation does to an object space

The operations of an object space are computations in `SpaceM`. Here each of them is
given by what it does: the value or fault it gives, and the space it leaves. Later
proofs rewrite with these equations and never unfold an operation.

Three changes of a space occur:

* `Space.push`: a new entity in the next free slot;
* `Space.attach`: a new singleton class for an entity, in the next free slot, linked
  from the entity;
* `Space.rename`: a name for an anonymous class.

`Space.after m s` is the space `m` leaves when run from `s`, whether it fails or not:
faults never roll a space back.
-/

namespace ReflectCheck

namespace Kind

/-- Whether the entity is a class (not an instance or a singleton class). -/
def isClass : Kind → Bool
  | .cls _ => true
  | _ => false

@[simp] theorem isClass_cls (sc : Option Handle) : (Kind.cls sc).isClass = true := rfl
@[simp] theorem isClass_inst (c : Handle) : (Kind.inst c).isClass = false := rfl
@[simp] theorem isClass_single (a : Handle) : (Kind.single a).isClass = false := rfl

theorem isClass_iff {k : Kind} : k.isClass = true ↔ ∃ sc, k = .cls sc := by
  cases k <;> simp

end Kind

theorem Handle.eq_iff {h h' : Handle} : h = h' ↔ h.slot = h'.slot := by
  cases h; cases h'; simp

namespace Space

/-! ### Changes of a space -/

/-- The space with `e` in the next free slot. -/
def push (s : Space) (e : Entity) : Space := ⟨s.entities.push e⟩

/-- The space with a new singleton class for `h` in the next free slot, linked from `h`. -/
def attach (s : Space) (h : Handle) : Space :=
  (s.push ⟨.single h, none, none⟩).modify h fun e => { e with singleton := some ⟨s.size⟩ }

/-- The space with the entity in slot `h` named `name`. -/
def rename (s : Space) (h : Handle) (name : String) : Space :=
  s.modify h fun e => { e with name := some name }

/-- The space a computation leaves, with a value or a fault. -/
def after {α : Type} (m : SpaceM α) (s : Space) : Space :=
  match m.run s with
  | .ok _ s' => s'
  | .error _ s' => s'

theorem after_of_ok {α : Type} {m : SpaceM α} {s s' : Space} {a : α}
    (hm : m.run s = .ok a s') : after m s = s' := by
  simp only [after, hm]

theorem after_of_error {α : Type} {m : SpaceM α} {s s' : Space} {f : Fault}
    (hm : m.run s = .error f s') : after m s = s' := by
  simp only [after, hm]

/-- After a first part that succeeds, a sequence leaves what its second part leaves. -/
theorem after_bind_of_ok {α β : Type} {m : SpaceM α} {k : α → SpaceM β} {s s' : Space} {a : α}
    (hm : m.run s = .ok a s') : after (m >>= k) s = after (k a) s' := by
  simp only [after, EStateM.run_bind, hm]

theorem after_bind_of_error {α β : Type} {m : SpaceM α} {k : α → SpaceM β} {s s' : Space}
    {f : Fault} (hm : m.run s = .error f s') : after (m >>= k) s = s' := by
  simp only [after, EStateM.run_bind, hm]

@[simp] theorem size_push (s : Space) (e : Entity) : (s.push e).size = s.size + 1 := by
  simp [push, size]

@[simp] theorem size_modify (s : Space) (h : Handle) (f : Entity → Entity) :
    (s.modify h f).size = s.size := by
  simp [modify, size]

@[simp] theorem size_attach (s : Space) (h : Handle) : (s.attach h).size = s.size + 1 := by
  simp [attach]

@[simp] theorem size_rename (s : Space) (h : Handle) (n : String) :
    (s.rename h n).size = s.size := by
  simp [rename]

theorem get?_push (s : Space) (e : Entity) (h : Handle) :
    (s.push e).get? h = if h.slot = s.size then some e else s.get? h := by
  simp only [push, get?, size, Array.getElem?_push]
  rfl

theorem get?_modify (s : Space) (h h' : Handle) (f : Entity → Entity) :
    (s.modify h f).get? h' = if h = h' then (s.get? h').map f else s.get? h' := by
  simp only [modify, get?, Array.getElem?_modify, Handle.eq_iff]

/-- An entity sits in a slot in use. -/
theorem get?_lt {s : Space} {h : Handle} {e : Entity} (he : s.get? h = some e) :
    h.slot < s.size := by
  simp only [get?, size] at he ⊢
  exact (Array.getElem?_eq_some_iff.1 he).1

theorem get?_push_of_get? {s : Space} {h : Handle} {e : Entity} (he : s.get? h = some e)
    (e' : Entity) : (s.push e').get? h = some e := by
  rw [get?_push, if_neg (Nat.ne_of_lt (get?_lt he))]
  exact he

theorem get?_push_size (s : Space) (e : Entity) : (s.push e).get? ⟨s.size⟩ = some e := by
  simp [get?_push]

/-- The slots of a space after a singleton class for the entity in slot `h` is attached. -/
theorem get?_attach {s : Space} {h : Handle} (hh : h.slot < s.size) (h' : Handle) :
    (s.attach h).get? h' =
      if h = h' then (s.get? h').map fun e => { e with singleton := some ⟨s.size⟩ }
      else if h'.slot = s.size then some ⟨.single h, none, none⟩ else s.get? h' := by
  simp only [attach, get?_modify, get?_push]
  by_cases hh' : h = h'
  · subst hh'
    simp [Nat.ne_of_lt hh]
  · simp [hh']

theorem get?_rename (s : Space) (h h' : Handle) (n : String) :
    (s.rename h n).get? h' =
      if h = h' then (s.get? h').map fun e => { e with name := some n } else s.get? h' :=
  get?_modify _ _ _ _

/-! ### Run equations -/

theorem run_map_ok {α β : Type} (f : α → β) {x : SpaceM α} {s s' : Space} {a : α}
    (hx : x.run s = .ok a s') : (f <$> x).run s = .ok (f a) s' := by
  change EStateM.map f x s = _
  unfold EStateM.map
  rw [show x s = .ok a s' from hx]

theorem run_map_error {α β : Type} (f : α → β) {x : SpaceM α} {s s' : Space} {e : Fault}
    (hx : x.run s = .error e s') : (f <$> x).run s = .error e s' := by
  change EStateM.map f x s = _
  unfold EStateM.map
  rw [show x s = .error e s' from hx]

theorem run_map_eq_ok {α β : Type} {f : α → β} {x : SpaceM α} {s s' : Space} {b : β}
    (h : (f <$> x).run s = .ok b s') : ∃ a, x.run s = .ok a s' ∧ f a = b := by
  cases hx : x.run s with
  | ok a s₁ =>
    rw [run_map_ok f hx] at h
    cases h
    exact ⟨a, rfl, rfl⟩
  | error e s₁ =>
    rw [run_map_error f hx] at h
    cases h

theorem entity_run {s : Space} {h : Handle} {e : Entity} (he : s.get? h = some e) :
    (entity h).run s = .ok e s := by
  simp only [entity, EStateM.run_bind, EStateM.run_get, he]
  rfl

theorem entity_run_of_get?_none {s : Space} {h : Handle} (he : s.get? h = none) :
    (entity h).run s = .error (.dangling h.slot) s := by
  simp only [entity, EStateM.run_bind, EStateM.run_get, he]
  rfl

theorem unsupported_run {α : Type} (s : Space) (method : String) (v : Value) :
    (unsupported method v : SpaceM α).run s = .error (.unsupported method (s.inspect v)) s :=
  rfl

/-- A value without a handle is shown the same way in every space. -/
theorem unsupported_run_of_handle?_none {α : Type} (s : Space) (method : String) {v : Value}
    (hv : v.handle? = none) :
    (unsupported method v : SpaceM α).run s = .error (.unsupported method v.display) s := by
  cases v with
  | object h => cases hv
  | _ => rfl

/-- An allocation takes the next free slot, while there is one. -/
theorem allocate_run (s : Space) (k : Kind) (n : Option String) :
    (allocate k n).run s =
      if s.size < capacity then .ok ⟨s.size⟩ (s.push ⟨k, n, none⟩) else .error .exhausted s := by
  simp only [allocate, EStateM.run_bind, EStateM.run_get]
  split <;> rfl

theorem singletonClass_run_of_some {s : Space} {h t : Handle} {e : Entity}
    (he : s.get? h = some e) (ht : e.singleton = some t) :
    (singletonClass h).run s = .ok t s := by
  simp only [singletonClass, EStateM.run_bind, entity_run he, ht]
  rfl

/-- The first request for the singleton class of an entity makes it. -/
theorem singletonClass_run_of_none {s : Space} {h : Handle} {e : Entity}
    (he : s.get? h = some e) (ht : e.singleton = none) :
    (singletonClass h).run s =
      if s.size < capacity then .ok ⟨s.size⟩ (s.attach h) else .error .exhausted s := by
  simp only [singletonClass, EStateM.run_bind, entity_run he, ht, allocate_run]
  by_cases hc : s.size < capacity
  · simp only [hc, if_true, entity_run (get?_push_of_get? he _)]; rfl
  · simp only [hc, if_false]

theorem singletonClass_run_of_get?_none {s : Space} {h : Handle} (he : s.get? h = none) :
    (singletonClass h).run s = .error (.dangling h.slot) s := by
  simp only [singletonClass, EStateM.run_bind, entity_run_of_get?_none he]

/-- Naming changes an anonymous class only. -/
theorem nameConstant_run {s : Space} {h : Handle} {e : Entity} (he : s.get? h = some e)
    (n : String) :
    (nameConstant h n).run s =
      .ok () (if e.kind.isClass ∧ e.name = none then s.rename h n else s) := by
  simp only [nameConstant, EStateM.run_bind, entity_run he]
  split
  · rename_i sc hk hn
    simp only [hk, Kind.isClass_cls, hn, and_self, if_true]
    rfl
  · rename_i hne
    have hnot : ¬(e.kind.isClass ∧ e.name = none) := by
      rintro ⟨hc, hn⟩
      obtain ⟨sc, hk⟩ := Kind.isClass_iff.1 hc
      exact hne sc hk hn
    simp only [hnot, if_false]
    rfl

theorem nameConstant_run_of_get?_none {s : Space} {h : Handle} (he : s.get? h = none)
    (n : String) : (nameConstant h n).run s = .error (.dangling h.slot) s := by
  simp only [nameConstant, EStateM.run_bind, entity_run_of_get?_none he]

/-- A class is defined below a class other than `Class`, `Object` by default. -/
theorem defineClass_run {s : Space} {n : Option String} {sc : Option Handle} {e : Entity}
    (he : s.get? (sc.getD .object) = some e) :
    (defineClass n sc).run s =
      if e.kind.isClass ∧ sc.getD .object ≠ .classClass then
        (allocate (.cls (some (sc.getD .object))) n).run s
      else .error (.typeMismatch "subclassable class" (s.inspectHandle (sc.getD .object))) s := by
  simp only [defineClass, EStateM.run_bind, entity_run he]
  split
  · rename_i sc' hk
    by_cases hp : sc.getD Handle.object = Handle.classClass
    · simp only [hp, Kind.isClass, if_true, ne_eq, not_true_eq_false, and_false, if_false]
      rfl
    · simp only [hp, Kind.isClass, hk, if_false, ne_eq, not_false_eq_true, and_self, if_true]
  · rename_i hk
    have hnot : e.kind.isClass = false := by
      cases hke : e.kind with
      | cls sc' => exact absurd hke (hk sc')
      | _ => rfl
    simp only [hnot, Bool.false_eq_true, false_and, if_false]
    rfl

theorem defineClass_run_of_get?_none {s : Space} {n : Option String} {sc : Option Handle}
    (he : s.get? (sc.getD .object) = none) :
    (defineClass n sc).run s = .error (.dangling (sc.getD .object).slot) s := by
  simp only [defineClass, EStateM.run_bind, entity_run_of_get?_none he]

/-- A new instance of `Class` is a new anonymous class. -/
theorem newInstance_run_classClass (s : Space) :
    (newInstance .classClass).run s = (defineClass none none).run s := rfl

theorem newInstance_run {s : Space} {c : Handle} {e : Entity} (hc : c ≠ .classClass)
    (he : s.get? c = some e) :
    (newInstance c).run s =
      if e.kind.isClass then (allocate (.inst c) none).run s
      else .error (.unsupported "new" (s.inspect (.object c))) s := by
  simp only [newInstance, hc, if_false, EStateM.run_bind, entity_run he]
  split
  · rename_i sc hk
    simp only [hk, Kind.isClass_cls, if_true]
  · rename_i hk
    have hnot : e.kind.isClass = false := by
      cases hke : e.kind with
      | cls sc' => exact absurd hke (hk sc')
      | _ => rfl
    simp only [hnot, Bool.false_eq_true, if_false]
    rfl

theorem newInstance_run_of_get?_none {s : Space} {c : Handle} (hc : c ≠ .classClass)
    (he : s.get? c = none) : (newInstance c).run s = .error (.dangling c.slot) s := by
  simp only [newInstance, hc, if_false, EStateM.run_bind, entity_run_of_get?_none he]

theorem classOf_run_object {s : Space} {h : Handle} {e : Entity} (he : s.get? h = some e) :
    (classOf (.object h)).run s =
      .ok (match e.kind with | .inst c => .object c | _ => .object .classClass) s := by
  simp only [classOf, EStateM.run_bind, entity_run he]
  cases e.kind <;> rfl

theorem classOf_run_of_get?_none {s : Space} {h : Handle} (he : s.get? h = none) :
    (classOf (.object h)).run s = .error (.dangling h.slot) s := by
  simp only [classOf, EStateM.run_bind, entity_run_of_get?_none he]

theorem classOf_run_of_primitiveClass? {s : Space} {v : Value} {c : Handle}
    (hv : primitiveClass? v = some c) : (classOf v).run s = .ok (.object c) s := by
  cases v with
  | bool b => cases b <;> (simp only [primitiveClass?, Option.some.injEq] at hv; subst hv; rfl)
  | object h => simp [primitiveClass?] at hv
  | _ => simp only [primitiveClass?, Option.some.injEq] at hv; subst hv; rfl

theorem superclassOfHandle_run_cls {s : Space} {h : Handle} {e : Entity} {sc : Option Handle}
    (he : s.get? h = some e) (hk : e.kind = .cls sc) :
    (superclassOfHandle h).run s = .ok sc s := by
  rw [superclassOfHandle]
  simp only [EStateM.run_bind, entity_run he, hk]
  rfl

theorem superclassOfHandle_run_inst {s : Space} {h c : Handle} {e : Entity}
    (he : s.get? h = some e) (hk : e.kind = .inst c) :
    (superclassOfHandle h).run s =
      .error (.unsupported "superclass" (s.inspect (.object h))) s := by
  rw [superclassOfHandle]
  simp only [EStateM.run_bind, entity_run he, hk]
  rfl

/-- The superclass of the singleton class of an instance is the class of the instance. -/
theorem superclassOfHandle_run_single_inst {s : Space} {h a c : Handle} {e ea : Entity}
    (he : s.get? h = some e) (hk : e.kind = .single a) (ha : s.get? a = some ea)
    (hka : ea.kind = .inst c) :
    (superclassOfHandle h).run s = .ok (some c) s := by
  rw [superclassOfHandle]
  simp only [EStateM.run_bind, entity_run he, hk, entity_run ha, hka]
  rfl

/-- The superclass of the singleton class of a class, or of a singleton class, is the
    singleton class of its superclass, and `Class` for the root class. -/
theorem superclassOfHandle_run_single {s : Space} {h a : Handle} {e ea : Entity}
    (he : s.get? h = some e) (hk : e.kind = .single a) (ha : s.get? a = some ea)
    (hka : ∀ c, ea.kind ≠ .inst c) (hlt : a.slot < h.slot) :
    (superclassOfHandle h).run s =
      match (superclassOfHandle a).run s with
      | .ok (some p) s' => (some <$> singletonClass p).run s'
      | .ok none s' => .ok (some .classClass) s'
      | .error f s' => .error f s' := by
  rw [superclassOfHandle]
  simp only [EStateM.run_bind, entity_run he, hk, entity_run ha]
  rw [if_pos hlt, EStateM.run_bind]
  cases (superclassOfHandle a).run s with
  | ok r s' => cases r <;> rfl
  | error f s' => rfl

/-- What the superclass of a singleton class makes of the superclass of the entity it is
    attached to: its singleton class, and `Class` above the root class. -/
def singletonAbove (r : Option Handle) : SpaceM (Option Handle) :=
  r.elim (pure (some Handle.classClass)) fun parent => some <$> singletonClass parent

/-- The same as a bind: the superclass of the attached entity first. -/
theorem superclassOfHandle_run_single_bind {s : Space} {h a : Handle} {e ea : Entity}
    (he : s.get? h = some e) (hk : e.kind = .single a) (ha : s.get? a = some ea)
    (hka : ∀ c, ea.kind ≠ .inst c) (hlt : a.slot < h.slot) :
    (superclassOfHandle h).run s = (superclassOfHandle a >>= singletonAbove).run s := by
  rw [superclassOfHandle_run_single he hk ha hka hlt, EStateM.run_bind]
  rcases (superclassOfHandle a).run s with ⟨_ | p, s'⟩ | ⟨f, s'⟩ <;> rfl

/-- A link to a later slot never occurs in a space built by the operations; it counts as
    dangling. -/
theorem superclassOfHandle_run_single_of_le {s : Space} {h a : Handle} {e ea : Entity}
    (he : s.get? h = some e) (hk : e.kind = .single a) (ha : s.get? a = some ea)
    (hka : ∀ c, ea.kind ≠ .inst c) (hle : h.slot ≤ a.slot) :
    (superclassOfHandle h).run s = .error (.dangling a.slot) s := by
  rw [superclassOfHandle]
  simp only [EStateM.run_bind, entity_run he, hk, entity_run ha]
  rw [if_neg (Nat.not_lt.2 hle)]
  rfl

theorem superclassOfHandle_run_single_of_get?_none {s : Space} {h a : Handle} {e : Entity}
    (he : s.get? h = some e) (hk : e.kind = .single a) (ha : s.get? a = none) :
    (superclassOfHandle h).run s = .error (.dangling a.slot) s := by
  rw [superclassOfHandle]
  simp only [EStateM.run_bind, entity_run he, hk, entity_run_of_get?_none ha]

theorem superclassOfHandle_run_of_get?_none {s : Space} {h : Handle} (he : s.get? h = none) :
    (superclassOfHandle h).run s = .error (.dangling h.slot) s := by
  rw [superclassOfHandle]
  simp only [EStateM.run_bind, entity_run_of_get?_none he]

theorem superclassOf_run_object (s : Space) (h : Handle) :
    (superclassOf (.object h)).run s =
      match (superclassOfHandle h).run s with
      | .ok r s' => .ok (r.elim .nil .object) s'
      | .error f s' => .error f s' := by
  simp only [superclassOf, EStateM.run_bind]
  cases (superclassOfHandle h).run s <;> rfl

/-- The superclass of an entity as a value: `nil` for the root class. -/
theorem superclassOf_run_map (s : Space) (h : Handle) :
    (superclassOf (.object h)).run s =
      ((fun r : Option Handle => r.elim Value.nil Value.object) <$> superclassOfHandle h).run s := by
  rw [superclassOf_run_object]
  cases hr : (superclassOfHandle h).run s with
  | ok r s' => rw [run_map_ok _ hr]
  | error f s' => rw [run_map_error _ hr]

theorem identityDescriptor_run_object (s : Space) (h : Handle) :
    (identityDescriptor (.object h)).run s = (Value.object <$> singletonClass h).run s := rfl

theorem instantiate_run_object (s : Space) (h : Handle) :
    (instantiate (.object h)).run s = (Value.object <$> newInstance h).run s := rfl

theorem nameOf_run_object {s : Space} {h : Handle} {e : Entity} (he : s.get? h = some e) :
    (nameOf (.object h)).run s =
      match e.kind with
      | .cls _ => .ok (e.name.elim .nil .str) s
      | .single _ => .ok .nil s
      | .inst _ => .error (.unsupported "name" (s.inspect (.object h))) s := by
  simp only [nameOf, EStateM.run_bind, entity_run he]
  cases e.kind <;> rfl

theorem nameOf_run_of_get?_none {s : Space} {h : Handle} (he : s.get? h = none) :
    (nameOf (.object h)).run s = .error (.dangling h.slot) s := by
  simp only [nameOf, EStateM.run_bind, entity_run_of_get?_none he]

end Space

end ReflectCheck
