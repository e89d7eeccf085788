import ReflectCheck.Proofs.Space.Stability
import ReflectCheck.Proofs.Space.Bounds

/-!
# Evaluating again, in a space that has grown

A computation run a second time, in a space that grew from the space its first run left,
gives an answer that corresponds to the first. Entities that neither run made fresh are
the same in both: the second run finds every singleton class the first one made, so it
answers with the same handles. Entities a run makes fresh (new instances, new classes,
and their singleton classes) differ, but come in pairs with corresponding links
(`Space.Twin`). The only way the runs part is that the second finds the space exhausted
where it has to make a fresh entity (`Space.Agree`).

This module sets up the correspondence and the three ways in which the two spaces move on
together: the first run attaches a singleton class to an entity that is not fresh, which
the second run then finds (`Space.Twin.attach_shared`), or both attach a singleton class
to a pair of fresh entities (`Twin.attach_pair`), or both make a pair of fresh entities
(`Twin.push_pair`).
-/

namespace ReflectCheck

namespace Kind

/-- Every handle the kind links to satisfies `p`. -/
def All (p : Handle → Prop) : Kind → Prop
  | .cls sc => ∀ h ∈ sc, p h
  | .inst c => p c
  | .single a => p a

/-- Two kinds alike, with links that correspond under `link`. -/
def Corr (link : Handle → Handle → Prop) : Kind → Kind → Prop
  | .cls p, .cls q => Option.Rel link p q
  | .inst c, .inst d => link c d
  | .single a, .single b => link a b
  | _, _ => False

theorem All.imp {p q : Handle → Prop} (hpq : ∀ h, p h → q h) {k : Kind} (hk : k.All p) :
    k.All q := by
  cases k with
  | cls sc => exact fun h hh => hpq h (hk h hh)
  | inst c => exact hpq c hk
  | single a => exact hpq a hk

theorem All.and {p q : Handle → Prop} {k : Kind} (hp : k.All p) (hq : k.All q) :
    k.All fun h => p h ∧ q h := by
  cases k with
  | cls sc => exact fun h hh => ⟨hp h hh, hq h hh⟩
  | inst c => exact ⟨hp, hq⟩
  | single a => exact ⟨hp, hq⟩

theorem Corr.mono {link link' : Handle → Handle → Prop} (hl : ∀ x y, link x y → link' x y)
    {k k' : Kind} (hk : k.Corr link k') : k.Corr link' k' := by
  cases k <;> cases k' <;> simp only [Corr] at hk ⊢
  case cls.cls p q =>
    cases hk with
    | some h => exact .some (hl _ _ h)
    | none => exact .none
  all_goals exact hl _ _ hk

/-- A kind corresponds to itself when each of its links corresponds to itself. -/
theorem corr_self {link : Handle → Handle → Prop} {k : Kind} (hk : k.All fun h => link h h) :
    k.Corr link k := by
  cases k with
  | cls sc =>
    cases sc with
    | none => exact .none
    | some p => exact .some (hk p rfl)
  | inst c => exact hk
  | single a => exact hk

theorem Corr.isClass_eq {link : Handle → Handle → Prop} {k k' : Kind} (hk : k.Corr link k') :
    k'.isClass = k.isClass := by
  cases k <;> cases k' <;> simp only [Corr] at hk <;> rfl

end Kind

namespace Space

/-- Inspection shows an entity the same way after the space grows. -/
theorem inspectHandle_grows {A B : Space} (hg : Grows A B) {h : Handle} (hh : A.Live h) :
    B.inspectHandle h = A.inspectHandle h := by
  -- strong induction on the slot: inspection recurses into earlier slots only
  induction hn : h.slot using Nat.strongRecOn generalizing h with
  | ind n ih =>
    obtain ⟨e, he⟩ := live_iff_get?.1 hh
    obtain ⟨e', he', hx, hname⟩ := hg.keeps he
    rw [inspectHandle, inspectHandle, he, he']
    dsimp only
    rw [hx.kind, hname]
    cases e.kind with
    | cls sc => rfl
    | inst c =>
      by_cases hc : c.slot < h.slot
      · simp only [if_pos hc, ih c.slot (hn ▸ hc) (Nat.lt_trans hc hh) rfl]
      · simp only [if_neg hc]
    | single a =>
      by_cases ha : a.slot < h.slot
      · simp only [if_pos ha, ih a.slot (hn ▸ ha) (Nat.lt_trans ha hh) rfl]
      · simp only [if_neg ha]

theorem inspect_grows {A B : Space} (hg : Grows A B) {v : Value} (hv : A.LiveValue v) :
    B.inspect v = A.inspect v := by
  cases v with
  | object h => exact inspectHandle_grows hg hv
  | _ => rfl

/-- Every entity a well-formed entity links to is in the space. -/
theorem WellFormed.links_live {A : Space} (hw : A.WellFormed) {x : Handle} {e : Entity}
    (he : A.get? x = some e) : e.kind.All A.Live := by
  have ho := hw.slot x e he
  cases hk : e.kind with
  | cls sc =>
    intro p hp
    obtain ⟨-, ⟨ep, hep, -⟩, -⟩ := ho.superclass p (hk.trans (by rw [Option.mem_def.1 hp]))
    exact get?_lt hep
  | inst c =>
    obtain ⟨-, ⟨ec, hec, -⟩, -⟩ := ho.cls c hk
    exact get?_lt hec
  | single a =>
    obtain ⟨-, ea, hea, -⟩ := ho.attached a hk
    exact get?_lt hea

/-! ### Two evaluations side by side -/

/-- The relation `R` with the pair `(a, b)` added. -/
def addPair (R : Handle → Handle → Prop) (a b : Handle) (x y : Handle) : Prop :=
  R x y ∨ (x = a ∧ y = b)

/-- In the first evaluation's space `A`, the handle `x` stands for the handle `y` of the
    second evaluation: the two are a pair of fresh entities, or they are one entity of `A`
    that is not fresh. -/
def Link (A : Space) (R : Handle → Handle → Prop) (x y : Handle) : Prop :=
  R x y ∨ (x = y ∧ A.Live x ∧ ∀ y', ¬ R x y')

/-- Values that stand for each other: handles that do, or equal values without handles. -/
def ValLink (A : Space) (R : Handle → Handle → Prop) : Value → Value → Prop
  | .object x, .object y => Link A R x y
  | v, w => v = w

/-- The first evaluation is in space `A` and ends in `Astar`; the second is in `B`, which
    grew from `Astar`. `R` pairs the entities that each made fresh, in slots from `L` on:
    paired entities have corresponding links and singleton classes, and the entities of
    `A` that are not fresh link to none that are. -/
structure Twin (L : Nat) (Astar A B : Space) (R : Handle → Handle → Prop) : Prop where
  wellFormedA : A.WellFormed
  wellFormedB : B.WellFormed
  /-- The first evaluation goes on from `A` to `Astar`. -/
  path : Grows A Astar
  /-- The second evaluation starts from a space that grew from `Astar`. -/
  grows : Grows Astar B
  fits : B.Fits
  /-- No built-in class is fresh. -/
  builtin : builtinCount ≤ L
  lower : L ≤ A.size
  /-- Paired entities are fresh, with corresponding links and singleton classes. -/
  pair : ∀ x y, R x y → L ≤ x.slot ∧ L ≤ y.slot ∧ ∃ e₁ e₂, A.get? x = some e₁ ∧
    B.get? y = some e₂ ∧ e₁.kind.Corr (Link A R) e₂.kind ∧ e₁.name = e₂.name ∧
    Option.Rel R e₁.singleton e₂.singleton
  /-- Each fresh entity has one partner. -/
  unique : ∀ x y x' y', R x y → R x' y' → (x = x' ↔ y = y')
  /-- An entity that is not fresh links to none that is. -/
  closed : ∀ x e, A.get? x = some e → (∀ y, ¬ R x y) →
    e.kind.All (fun h => ∀ y, ¬ R h y) ∧ ∀ g ∈ e.singleton, ∀ y, ¬ R g y

section Twin

variable {L : Nat} {Astar A B : Space} {R : Handle → Handle → Prop}

theorem ValLink.cases {v w : Value} (hl : ValLink A R v w) :
    (∃ x y, v = .object x ∧ w = .object y ∧ Link A R x y) ∨ (w = v ∧ v.handle? = none) := by
  cases v with
  | object x =>
    cases w with
    | object y => exact .inl ⟨x, y, rfl, rfl, hl⟩
    | _ => cases hl
  | _ => exact .inr ⟨hl.symm, rfl⟩

theorem valLink_self_of_handle?_none {v : Value} (hv : v.handle? = none) : ValLink A R v v := by
  cases v with
  | object h => cases hv
  | _ => rfl

/-- Where nothing is fresh, every value of the space stands for itself. -/
theorem valLink_self_of_live {v : Value} (hv : A.LiveValue v) : ValLink A (fun _ _ => False) v v := by
  cases v with
  | object h => exact .inr ⟨rfl, hv, fun _ h => h⟩
  | _ => rfl

/-- Where no pair is fresh, values stand only for themselves. -/
theorem ValLink.eq_of_empty (hR : ∀ x y, ¬ R x y) {v w : Value} (hl : ValLink A R v w) : w = v := by
  rcases hl.cases with ⟨x, y, rfl, rfl, hxy | ⟨rfl, -⟩⟩ | ⟨rfl, -⟩
  · exact absurd hxy (hR x y)
  all_goals rfl

/-- Two evaluations that start side by side, with nothing fresh yet. -/
theorem twin_start (hA : A.WellFormed) (hB : B.WellFormed) (hpath : Grows A Astar)
    (hgrows : Grows Astar B) (hfits : B.Fits) : Twin A.size Astar A B (fun _ _ => False) where
  wellFormedA := hA
  wellFormedB := hB
  path := hpath
  grows := hgrows
  fits := hfits
  builtin := by
    have : A.Live ⟨builtinCount - 1⟩ := hA.live_builtin (by decide)
    simp only [Live] at this
    have : 0 < builtinCount := by decide
    omega
  lower := Nat.le_refl _
  pair _ _ h := h.elim
  unique _ _ _ _ h := h.elim
  closed _ _ he _ := ⟨(hA.links_live he).imp fun _ _ _ h => h, fun _ _ _ h => h⟩

theorem Link.mono {A' : Space} {R' : Handle → Handle → Prop} (hle : A.size ≤ A'.size)
    (hR : ∀ x y, R x y → R' x y) (hnew : ∀ x y, R' x y → R x y ∨ A.size ≤ x.slot)
    {x y : Handle} (hl : Link A R x y) : Link A' R' x y := by
  rcases hl with h | ⟨rfl, hx, hnl⟩
  · exact .inl (hR _ _ h)
  · refine .inr ⟨rfl, Nat.lt_of_lt_of_le hx hle, fun y' h' => ?_⟩
    rcases hnew _ _ h' with h'' | h''
    · exact hnl y' h''
    · exact Nat.not_le.2 hx h''

theorem Link.live {x y : Handle} (hT : Twin L Astar A B R) (hl : Link A R x y) : A.Live x := by
  rcases hl with h | ⟨-, hx, -⟩
  · obtain ⟨-, -, e₁, -, he₁, -⟩ := hT.pair x y h
    exact get?_lt he₁
  · exact hx

/-- Adding a pair of entities past the end of the first space keeps every handle standing
    for what it stood for. -/
theorem link_addPair {A' : Space} (hle : A.size ≤ A'.size) (b : Handle) {x y : Handle}
    (hl : Link A R x y) : Link A' (addPair R ⟨A.size⟩ b) x y :=
  Link.mono hle (fun _ _ h => .inl h) (fun _ _ h => h.imp id fun h' => by rw [h'.1]) hl

theorem optionRel_addPair (a b : Handle) {p q : Option Handle} (h : Option.Rel R p q) :
    Option.Rel (addPair R a b) p q := by
  cases h with
  | some h => exact .some (.inl h)
  | none => exact .none

namespace Twin

variable (hT : Twin L Astar A B R)
include hT

theorem growsAB : Grows A B := hT.path.trans hT.grows

theorem size_le : A.size ≤ B.size := hT.growsAB.size_le

theorem right_live {x y : Handle} (h : R x y) : B.Live y := by
  obtain ⟨-, -, -, e₂, -, he₂, -⟩ := hT.pair x y h
  exact get?_lt he₂

/-- Nothing beyond the first space is fresh yet. -/
theorem not_left_of_le {x : Handle} (hx : A.size ≤ x.slot) : ∀ y, ¬ R x y :=
  fun _ h => Nat.not_le.2 (Link.live hT (.inl h)) hx

theorem not_left_builtin {x : Handle} (hx : x.slot < builtinCount) : ∀ y, ¬ R x y :=
  fun y h => by
    have := (hT.pair x y h).1
    have := hT.builtin
    omega

theorem link_builtin {x : Handle} (hx : x.slot < builtinCount) : Link A R x x :=
  .inr ⟨rfl, hT.wellFormedA.live_builtin hx, hT.not_left_builtin hx⟩

/-- A built-in class stands for itself only. -/
theorem eq_of_link_builtin {x y : Handle} (hl : Link A R x y)
    (hb : x.slot < builtinCount ∨ y.slot < builtinCount) : y = x := by
  rcases hl with hxy | ⟨rfl, -, -⟩
  · obtain ⟨hx, hy, -⟩ := hT.pair x y hxy
    have := hT.builtin
    omega
  · rfl

/-- A value among the first `L` slots, such as one made before either evaluation, equals
    one of two corresponding values exactly when it equals the other; and the two are both
    handles or both not. -/
theorem valLink_expected {u v w : Value} (hl : ValLink A R v w)
    (hu : ∀ h, u = .object h → h.slot < L) : (u = v ↔ u = w) ∧ v.isPrimitive = w.isPrimitive := by
  rcases hl.cases with ⟨x, y, rfl, rfl, hxy | ⟨rfl, -⟩⟩ | ⟨rfl, -⟩
  · -- a fresh pair lies beyond every such value
    obtain ⟨hx, hy, -⟩ := hT.pair x y hxy
    refine ⟨iff_of_false (fun h => ?_) (fun h => ?_), rfl⟩
    · have := hu x h
      omega
    · have := hu y h
      omega
  all_goals exact ⟨Iff.rfl, rfl⟩

/-- With nothing fresh, corresponding handles are one entity, shown the same way. -/
theorem inspect_link {x y : Handle} (hl : Link A R x y) (hR : ∀ x y, ¬ R x y) :
    B.inspect (.object y) = A.inspect (.object x) := by
  rcases hl with hxy | ⟨rfl, hx, -⟩
  · exact absurd hxy (hR x y)
  · exact inspect_grows hT.growsAB (show A.LiveValue (.object x) from hx)

/-- Every link of an entity that is not fresh is shared by both evaluations. -/
theorem links_shared {x : Handle} {e : Entity} (he : A.get? x = some e)
    (hnl : ∀ y, ¬ R x y) : e.kind.All fun h => Link A R h h :=
  (Kind.All.and (hT.wellFormedA.links_live he) (hT.closed x e he hnl).1).imp
    fun _ ⟨hlive, hnl'⟩ => .inr ⟨rfl, hlive, hnl'⟩

/-- Corresponding handles name entities of corresponding kinds and with the same name. -/
theorem corr {x y : Handle} (hl : Link A R x y) :
    ∃ e₁ e₂, A.get? x = some e₁ ∧ B.get? y = some e₂ ∧
      e₁.kind.Corr (Link A R) e₂.kind ∧ e₁.name = e₂.name := by
  rcases hl with hxy | ⟨rfl, hx, hnl⟩
  · obtain ⟨-, -, e₁, e₂, he₁, he₂, hk, hn, -⟩ := hT.pair x y hxy
    exact ⟨e₁, e₂, he₁, he₂, hk, hn⟩
  · obtain ⟨e, he⟩ := live_iff_get?.1 hx
    obtain ⟨e', he', hx', hn⟩ := hT.growsAB.keeps he
    refine ⟨e, e', he, he', ?_, hn.symm⟩
    rw [hx'.kind]
    exact Kind.corr_self (hT.links_shared he hnl)

/-! ### Moving on together -/

/-- The first evaluation attaches a singleton class to an entity that is not fresh; the
    second, which starts after the first has ended, finds it. -/
theorem attach_shared {x : Handle} {e : Entity} (he : A.get? x = some e)
    (hn : e.singleton = none) (hnl : ∀ y, ¬ R x y) (hpath : Grows (A.attach x) Astar) :
    Twin L Astar (A.attach x) B R where
  wellFormedA := (Grow.attach he hn).wellFormed hT.wellFormedA
  wellFormedB := hT.wellFormedB
  path := hpath
  grows := hT.grows
  fits := hT.fits
  builtin := hT.builtin
  lower := by
    rw [size_attach]
    exact Nat.le_succ_of_le hT.lower
  pair u v huv := by
    obtain ⟨hLu, hLv, e₁, e₂, he₁, he₂, hk, hname, hs⟩ := hT.pair u v huv
    have hxu : x ≠ u := fun h => hnl v (h ▸ huv)
    refine ⟨hLu, hLv, e₁, e₂, ?_, he₂,
      hk.mono fun _ _ => Link.mono (by simp) (fun _ _ h => h) (fun _ _ h => .inl h), hname, hs⟩
    rw [get?_attach (get?_lt he), if_neg hxu, if_neg (Nat.ne_of_lt (get?_lt he₁)), he₁]
  unique := hT.unique
  closed z e' he' hz := by
    rw [get?_attach (get?_lt he)] at he'
    by_cases hxz : x = z
    · -- the entity itself now links to its new singleton class, which is not fresh
      subst hxz
      rw [if_pos rfl, he, Option.map_some, Option.some.injEq] at he'
      subst he'
      refine ⟨(hT.closed x e he hnl).1, fun g hg => ?_⟩
      cases Option.mem_def.1 hg
      exact hT.not_left_of_le (Nat.le_refl _)
    · rw [if_neg hxz] at he'
      by_cases hzs : z.slot = A.size
      · -- the new singleton class links to the entity
        rw [if_pos hzs, Option.some.injEq] at he'
        subst he'
        exact ⟨hnl, fun _ hg => by cases hg⟩
      · rw [if_neg hzs] at he'
        exact hT.closed z e' he' hz

/-- A new pair, one entity past the end of each space, is unlike every pair before it. -/
theorem unique_addPair : ∀ u v u' v', addPair R ⟨A.size⟩ ⟨B.size⟩ u v →
    addPair R ⟨A.size⟩ ⟨B.size⟩ u' v' → (u = u' ↔ v = v') := by
  have hold : ∀ {u v}, R u v → u ≠ ⟨A.size⟩ ∧ v ≠ ⟨B.size⟩ := fun huv =>
    ⟨fun h => Nat.ne_of_lt (Link.live hT (.inl huv)) (congrArg Handle.slot h),
      fun h => Nat.ne_of_lt (hT.right_live huv) (congrArg Handle.slot h)⟩
  rintro u v u' v' (huv | ⟨rfl, rfl⟩) (huv₂ | ⟨rfl, rfl⟩)
  · exact hT.unique u v u' v' huv huv₂
  · exact iff_of_false (hold huv).1 (hold huv).2
  · exact iff_of_false (fun h => (hold huv₂).1 h.symm) (fun h => (hold huv₂).2 h.symm)
  · exact iff_of_true rfl rfl

/-- An entity that is not fresh still links to none that is, when a pair is added past the
    end of both spaces. -/
theorem closed_addPair (b : Handle) {z : Handle} {e : Entity} (he : A.get? z = some e)
    (hz : ∀ y, ¬ R z y) :
    e.kind.All (fun h => ∀ y, ¬ addPair R ⟨A.size⟩ b h y) ∧
      ∀ g ∈ e.singleton, ∀ y, ¬ addPair R ⟨A.size⟩ b g y := by
  have hnew : ∀ {h}, A.Live h → (∀ y, ¬ R h y) → ∀ y, ¬ addPair R ⟨A.size⟩ b h y :=
    fun hh hnl y hy => hy.elim (hnl y) fun h' => Nat.ne_of_lt hh (congrArg Handle.slot h'.1)
  obtain ⟨hk, hs⟩ := hT.closed z e he hz
  refine ⟨(Kind.All.and (hT.wellFormedA.links_live he) hk).imp fun _ ⟨hl, hn⟩ => hnew hl hn,
    fun g hg => hnew ?_ (hs g hg)⟩
  obtain ⟨-, eg, heg, -⟩ := (hT.wellFormedA.slot z e he).singleton g hg
  exact get?_lt heg

/-- Both evaluations attach a singleton class to a pair of fresh entities; the two new
    singleton classes are a fresh pair. -/
theorem attach_pair {x y : Handle} {e₁ e₂ : Entity} (hxy : R x y) (he₁ : A.get? x = some e₁)
    (hn₁ : e₁.singleton = none) (he₂ : B.get? y = some e₂) (hn₂ : e₂.singleton = none)
    (hcB : B.size < capacity) (hpath : Grows (A.attach x) Astar) :
    Twin L Astar (A.attach x) (B.attach y) (addPair R ⟨A.size⟩ ⟨B.size⟩) where
  wellFormedA := (Grow.attach he₁ hn₁).wellFormed hT.wellFormedA
  wellFormedB := (Grow.attach he₂ hn₂).wellFormed hT.wellFormedB
  path := hpath
  grows := hT.grows.trans (.single (.attach he₂ hn₂))
  fits := by
    simp only [Fits, size_attach]
    omega
  builtin := hT.builtin
  lower := by
    rw [size_attach]
    exact Nat.le_succ_of_le hT.lower
  pair u v huv := by
    have hxA := get?_lt he₁
    have hyB := get?_lt he₂
    have hlink : ∀ {u v}, Link A R u v → Link (A.attach x) (addPair R ⟨A.size⟩ ⟨B.size⟩) u v :=
      link_addPair (by simp) _
    rcases huv with huv | ⟨rfl, rfl⟩
    · obtain ⟨hLu, hLv, e₁', e₂', he₁', he₂', hk, hname, hs⟩ := hT.pair u v huv
      refine ⟨hLu, hLv, ?_⟩
      by_cases hxu : x = u
      · -- the pair that got the singleton classes
        subst hxu
        obtain rfl : y = v := (hT.unique x y x v hxy huv).1 rfl
        obtain rfl : e₁' = e₁ := Option.some.inj (he₁'.symm.trans he₁)
        obtain rfl : e₂' = e₂ := Option.some.inj (he₂'.symm.trans he₂)
        refine ⟨{ e₁' with singleton := some ⟨A.size⟩ }, { e₂' with singleton := some ⟨B.size⟩ },
          ?_, ?_, hk.mono fun _ _ => hlink, hname, .some (Or.inr ⟨rfl, rfl⟩)⟩
        · rw [get?_attach hxA, if_pos rfl, he₁']
          rfl
        · rw [get?_attach hyB, if_pos rfl, he₂']
          rfl
      · have hyv : y ≠ v := fun h => hxu ((hT.unique x y u v hxy huv).2 h)
        refine ⟨e₁', e₂', ?_, ?_, hk.mono fun _ _ => hlink, hname, optionRel_addPair _ _ hs⟩
        · rw [get?_attach hxA, if_neg hxu, if_neg (Nat.ne_of_lt (get?_lt he₁')), he₁']
        · rw [get?_attach hyB, if_neg hyv, if_neg (Nat.ne_of_lt (get?_lt he₂')), he₂']
    · -- the new pair of singleton classes, attached to `x` and `y`
      have hLA := hT.lower
      have hAB := hT.size_le
      refine ⟨hLA, Nat.le_trans hLA hAB, ⟨.single x, none, none⟩, ⟨.single y, none, none⟩, ?_, ?_,
        hlink (.inl hxy), rfl, .none⟩
      · have hx' : x ≠ ⟨A.size⟩ := fun h => Nat.ne_of_lt hxA (congrArg Handle.slot h)
        rw [get?_attach hxA, if_neg hx', if_pos rfl]
      · have hy' : y ≠ ⟨B.size⟩ := fun h => Nat.ne_of_lt hyB (congrArg Handle.slot h)
        rw [get?_attach hyB, if_neg hy', if_pos rfl]
  unique := hT.unique_addPair
  closed z e he hz := by
    have hzR : ∀ y, ¬ R z y := fun y h => hz y (.inl h)
    have hxz : x ≠ z := fun h => hzR y (h ▸ hxy)
    rw [get?_attach (get?_lt he₁), if_neg hxz] at he
    by_cases hzs : z.slot = A.size
    · exact absurd (Or.inr ⟨Handle.eq_iff.2 hzs, rfl⟩) (hz ⟨B.size⟩)
    · rw [if_neg hzs] at he
      exact hT.closed_addPair _ he hzR

/-- Both evaluations make a fresh entity, of corresponding kinds; the two are a fresh
    pair. -/
theorem push_pair {k₁ k₂ : Kind} (hA : Grow A (A.push ⟨k₁, none, none⟩))
    (hB : Grow B (B.push ⟨k₂, none, none⟩)) (hk : k₁.Corr (Link A R) k₂)
    (hcB : B.size < capacity) (hpath : Grows (A.push ⟨k₁, none, none⟩) Astar) :
    Twin L Astar (A.push ⟨k₁, none, none⟩) (B.push ⟨k₂, none, none⟩)
      (addPair R ⟨A.size⟩ ⟨B.size⟩) where
  wellFormedA := hA.wellFormed hT.wellFormedA
  wellFormedB := hB.wellFormed hT.wellFormedB
  path := hpath
  grows := hT.grows.trans (.single hB)
  fits := by
    simp only [Fits, size_push]
    omega
  builtin := hT.builtin
  lower := by
    rw [size_push]
    exact Nat.le_succ_of_le hT.lower
  pair u v huv := by
    have hlink : ∀ {u v}, Link A R u v → Link (A.push ⟨k₁, none, none⟩)
        (addPair R ⟨A.size⟩ ⟨B.size⟩) u v :=
      link_addPair (by simp) _
    rcases huv with huv | ⟨rfl, rfl⟩
    · obtain ⟨hLu, hLv, e₁, e₂, he₁, he₂, hk', hname, hs⟩ := hT.pair u v huv
      exact ⟨hLu, hLv, e₁, e₂, get?_push_of_get? he₁ _, get?_push_of_get? he₂ _,
        hk'.mono fun _ _ => hlink, hname, optionRel_addPair _ _ hs⟩
    · have hLA := hT.lower
      have hAB := hT.size_le
      exact ⟨hLA, Nat.le_trans hLA hAB, _, _, get?_push_size A _, get?_push_size B _,
        hk.mono fun _ _ => hlink, rfl, .none⟩
  unique := hT.unique_addPair
  closed z e he hz := by
    have hzR : ∀ y, ¬ R z y := fun y h => hz y (.inl h)
    rw [get?_push] at he
    by_cases hzs : z.slot = A.size
    · exact absurd (Or.inr ⟨Handle.eq_iff.2 hzs, rfl⟩) (hz ⟨B.size⟩)
    · rw [if_neg hzs] at he
      exact hT.closed_addPair _ he hzR

end Twin

/-! ### How the results of the two evaluations compare -/

/-- How the results of a computation in the two evaluations compare: answers that stand for
    each other, in spaces still side by side; or faults in both, the same fault unless
    something fresh is involved; or an answer in the first and an exhausted space in the
    second, which only making something fresh can meet. `fresh` says whether the computation
    may make fresh entities itself; if it may not, it makes no pair when there is none. -/
def Agree {α : Type} (L : Nat) (Astar : Space) (fresh : Prop) (R : Handle → Handle → Prop)
    (rel : Space → (Handle → Handle → Prop) → α → α → Prop) :
    EStateM.Result Fault Space α → EStateM.Result Fault Space α → Prop
  | .ok a A', .ok b B' => ∃ R', Twin L Astar A' B' R' ∧ rel A' R' a b ∧
      (¬ fresh → (∀ x y, ¬ R x y) → ∀ x y, ¬ R' x y)
  | .error f _, .error g _ => ¬ fresh → (∀ x y, ¬ R x y) → f = g
  | .ok _ _, .error g _ => g = .exhausted ∧ (fresh ∨ ∃ x y, R x y)
  | .error _ _, .ok _ _ => False

section Agree

variable {α β : Type} {fresh fresh' : Prop} {rel : Space → (Handle → Handle → Prop) → α → α → Prop}

theorem Agree.weaken (hf : fresh → fresh') {r₁ r₂ : EStateM.Result Fault Space α}
    (h : Agree L Astar fresh R rel r₁ r₂) : Agree L Astar fresh' R rel r₁ r₂ := by
  cases r₁ <;> cases r₂ <;> simp only [Agree] at h ⊢
  · obtain ⟨R', hT, hrel, hR⟩ := h
    exact ⟨R', hT, hrel, fun hn => hR (hn ∘ hf)⟩
  · exact ⟨h.1, h.2.imp_left hf⟩
  · exact fun hn => h (hn ∘ hf)

/-- A comparison made from later spaces, whose pairs include the earlier ones. -/
theorem Agree.of_later {R₁ : Handle → Handle → Prop}
    (hR : ¬ fresh → (∀ x y, ¬ R x y) → ∀ x y, ¬ R₁ x y) {r₁ r₂ : EStateM.Result Fault Space α}
    (h : Agree L Astar fresh R₁ rel r₁ r₂) : Agree L Astar fresh R rel r₁ r₂ := by
  cases r₁ <;> cases r₂ <;> simp only [Agree] at h ⊢
  · obtain ⟨R', hT, hrel, hR'⟩ := h
    exact ⟨R', hT, hrel, fun hn hR₀ => hR' hn (hR hn hR₀)⟩
  · refine ⟨h.1, ?_⟩
    by_cases hf : fresh
    · exact .inl hf
    · by_contra hno
      obtain ⟨x, y, hxy⟩ := h.2.resolve_left hf
      exact hR hf (fun x y h' => hno (.inr ⟨x, y, h'⟩)) x y hxy
  · exact fun hn hR₀ => h hn (hR hn hR₀)

/-- Once the second evaluation finds the space exhausted where something fresh is
    involved, the comparison holds whatever the first evaluation gives. -/
theorem agree_of_exhausted (hR : fresh ∨ ∃ x y, R x y) (r₁ : EStateM.Result Fault Space α)
    (B' : Space) : Agree L Astar fresh R rel r₁ (.error .exhausted B') := by
  cases r₁ with
  | ok a A' => exact ⟨rfl, hR⟩
  | error f A' =>
    intro hf hR₀
    obtain ⟨x, y, hxy⟩ := hR.resolve_left hf
    exact absurd hxy (hR₀ x y)

theorem agree_map {rel' : Space → (Handle → Handle → Prop) → β → β → Prop} (f g : α → β)
    (hrel : ∀ A' R' a b, rel A' R' a b → rel' A' R' (f a) (g b)) {m m' : SpaceM α}
    (h : Agree L Astar fresh R rel (m.run A) (m'.run B)) :
    Agree L Astar fresh R rel' ((f <$> m).run A) ((g <$> m').run B) := by
  cases hm : m.run A with
  | ok a A' =>
    cases hm' : m'.run B with
    | ok b B' =>
      rw [run_map_ok f hm, run_map_ok g hm']
      rw [hm, hm'] at h
      obtain ⟨R', hT, hr, hR⟩ := h
      exact ⟨R', hT, hrel _ _ _ _ hr, hR⟩
    | error e B' =>
      rw [run_map_ok f hm, run_map_error g hm']
      rw [hm, hm'] at h
      exact h
  | error e A' =>
    cases hm' : m'.run B with
    | ok b B' =>
      rw [hm, hm'] at h
      exact h.elim
    | error e' B' =>
      rw [run_map_error f hm, run_map_error g hm']
      rw [hm, hm'] at h
      exact h

/-- A computation followed by another: the comparison of the first part, and of the second
    from every pair of answers the first allows, give the comparison of the whole. -/
theorem Agree.bind {fresh₂ : Prop} {rel' : Space → (Handle → Handle → Prop) → β → β → Prop}
    {m m' : SpaceM α} {k k' : α → SpaceM β}
    (h₁ : Agree L Astar fresh R rel (m.run A) (m'.run B))
    (h₂ : ∀ a b A' B' R', m.run A = .ok a A' → Twin L Astar A' B' R' → rel A' R' a b →
      Agree L Astar fresh₂ R' rel' ((k a).run A') ((k' b).run B')) :
    Agree L Astar (fresh ∨ fresh₂) R rel' ((m >>= k).run A) ((m' >>= k').run B) := by
  rw [EStateM.run_bind, EStateM.run_bind]
  cases hm : m.run A with
  | ok a A' =>
    cases hm' : m'.run B with
    | ok b B' =>
      rw [hm, hm'] at h₁
      obtain ⟨R', hT', hr, hR'⟩ := h₁
      -- the first part made no pair if it could not make anything fresh
      exact ((h₂ a b A' B' R' hm hT' hr).weaken Or.inr).of_later fun hn hR => hR' (hn ∘ Or.inl) hR
    | error g B' =>
      rw [hm, hm'] at h₁
      obtain ⟨rfl, hR⟩ := h₁
      exact agree_of_exhausted (hR.imp_left Or.inl) _ _
  | error f A' =>
    cases hm' : m'.run B with
    | ok b B' =>
      rw [hm, hm'] at h₁
      exact h₁.elim
    | error g B' =>
      rw [hm, hm'] at h₁
      exact fun hn => h₁ (hn ∘ Or.inl)

end Agree

theorem optionRel_cases {r : Handle → Handle → Prop} {p q : Option Handle} (h : Option.Rel r p q) :
    (∃ a b, r a b ∧ p = some a ∧ q = some b) ∨ (p = none ∧ q = none) := by
  cases h with
  | some h => exact .inl ⟨_, _, h, rfl, rfl⟩
  | none => exact .inr ⟨rfl, rfl⟩

theorem after_of_run_eq {α : Type} {m m' : SpaceM α} {s s' : Space} (h : m.run s = m'.run s') :
    after m s = after m' s' := by
  simp only [after, h]

/-! ### One operation at a time -/

/-- Singleton classes: a fresh pair has a pair of singleton classes or gets one; an entity
    that is not fresh has, in the second evaluation, the singleton class the first one found
    or made. -/
theorem singletonClass_twin (hT : Twin L Astar A B R) {x y : Handle} (hl : Link A R x y)
    (hpath : Grows (after (singletonClass x) A) Astar) :
    Agree L Astar False R Link ((singletonClass x).run A) ((singletonClass y).run B) := by
  rcases hl with hxy | ⟨rfl, hx, hnl⟩
  · obtain ⟨-, -, e₁, e₂, he₁, he₂, -, -, hs⟩ := hT.pair x y hxy
    rcases optionRel_cases hs with ⟨g₁, g₂, hg, hs₁, hs₂⟩ | ⟨hs₁, hs₂⟩
    · rw [singletonClass_run_of_some he₁ hs₁, singletonClass_run_of_some he₂ hs₂]
      exact ⟨R, hT, .inl hg, fun _ h => h⟩
    · rw [singletonClass_run_of_none he₁ hs₁, singletonClass_run_of_none he₂ hs₂]
      by_cases hcA : A.size < capacity
      · have hpath' : Grows (A.attach x) Astar := by
          rwa [after_of_ok (by rw [singletonClass_run_of_none he₁ hs₁, if_pos hcA])] at hpath
        rw [if_pos hcA]
        by_cases hcB : B.size < capacity
        · rw [if_pos hcB]
          exact ⟨_, hT.attach_pair hxy he₁ hs₁ he₂ hs₂ hcB hpath', .inl (.inr ⟨rfl, rfl⟩),
            fun _ h => absurd hxy (h x y)⟩
        · rw [if_neg hcB]
          exact ⟨rfl, .inr ⟨x, y, hxy⟩⟩
      · -- the second space is at least as full as the first
        rw [if_neg hcA, if_neg fun hcB => hcA (Nat.lt_of_le_of_lt hT.size_le hcB)]
        exact fun _ h => absurd hxy (h x y)
  · obtain ⟨e, he⟩ := live_iff_get?.1 hx
    cases hs : e.singleton with
    | some g =>
      obtain ⟨e', he', hx', -⟩ := hT.growsAB.keeps he
      rw [singletonClass_run_of_some he hs, singletonClass_run_of_some he' (hx'.singleton g hs)]
      obtain ⟨-, eg, heg, -⟩ := (hT.wellFormedA.slot x e he).singleton g hs
      exact ⟨R, hT, .inr ⟨rfl, get?_lt heg, (hT.closed x e he hnl).2 g hs⟩, fun _ h => h⟩
    | none =>
      rw [singletonClass_run_of_none he hs]
      by_cases hcA : A.size < capacity
      · have hpath' : Grows (A.attach x) Astar := by
          rwa [after_of_ok (by rw [singletonClass_run_of_none he hs, if_pos hcA])] at hpath
        rw [if_pos hcA]
        -- the second evaluation finds the singleton class the first one made
        have hat : (A.attach x).get? x = some { e with singleton := some ⟨A.size⟩ } := by
          rw [get?_attach hx, if_pos rfl, he]
          rfl
        obtain ⟨e', he', hx', -⟩ := (hpath'.trans hT.grows).keeps hat
        rw [singletonClass_run_of_some he' (hx'.singleton _ rfl)]
        exact ⟨R, hT.attach_shared he hs hnl hpath',
          .inr ⟨rfl, by simp [Live], hT.not_left_of_le (Nat.le_refl _)⟩, fun _ h => h⟩
      · -- the first evaluation found the space full, and the second finds the same space
        have hBA : B = A := hT.growsAB.eq_of_size_le (Nat.le_trans hT.fits (Nat.not_lt.1 hcA))
        rw [hBA, singletonClass_run_of_none he hs, if_neg hcA]
        exact fun _ _ => rfl

/-- Superclasses: corresponding entities have corresponding superclasses, found or made the
    same way in both evaluations. -/
theorem superclassOfHandle_twin (hT : Twin L Astar A B R) {x y : Handle} (hl : Link A R x y)
    (hpath : Grows (after (superclassOfHandle x) A) Astar) :
    Agree L Astar False R (fun A' R' => Option.Rel (Link A' R'))
      ((superclassOfHandle x).run A) ((superclassOfHandle y).run B) := by
  -- strong induction on the slot: the recursion goes to the attached entity
  induction hn : x.slot using Nat.strongRecOn generalizing x y A B R with
  | ind n ih =>
    obtain ⟨e₁, e₂, he₁, he₂, hk, -⟩ := hT.corr hl
    cases hk₁ : e₁.kind <;> cases hk₂ : e₂.kind <;> rw [hk₁, hk₂] at hk <;>
      simp only [Kind.Corr] at hk
    case cls.cls p q =>
      rw [superclassOfHandle_run_cls he₁ hk₁, superclassOfHandle_run_cls he₂ hk₂]
      exact ⟨R, hT, hk, fun _ h => h⟩
    case inst.inst c d =>
      rw [superclassOfHandle_run_inst he₁ hk₁, superclassOfHandle_run_inst he₂ hk₂]
      -- the same fault, unless the entities are fresh
      exact fun _ hR => by rw [hT.inspect_link hl hR]
    case single.single a b =>
      obtain ⟨ea, eb, hea, heb, hka, -⟩ := hT.corr hk
      by_cases hinst : ∃ c, ea.kind = .inst c
      · -- the singleton class of an instance: the class of the instance
        obtain ⟨c, hc⟩ := hinst
        cases hkb : eb.kind <;> rw [hc, hkb] at hka <;> simp only [Kind.Corr] at hka
        case inst d =>
          rw [superclassOfHandle_run_single_inst he₁ hk₁ hea hc,
            superclassOfHandle_run_single_inst he₂ hk₂ heb hkb]
          exact ⟨R, hT, .some hka, fun _ h => h⟩
      · have hka' : ∀ c, ea.kind ≠ .inst c := fun c h => hinst ⟨c, h⟩
        have hkb' : ∀ d, eb.kind ≠ .inst d := fun d hd => by
          cases hkea : ea.kind <;> simp only [hkea, hd, Kind.Corr] at hka
          exact hinst ⟨_, hkea⟩
        have hax := ((hT.wellFormedA.slot x e₁ he₁).attached a hk₁).1
        have hby := ((hT.wellFormedB.slot y e₂ he₂).attached b hk₂).1
        have hrun₁ := superclassOfHandle_run_single_bind he₁ hk₁ hea hka' hax
        have hrec := ih a.slot (hn ▸ hax) hT hk
          ((after_superclassOfHandle_single_grows he₁ hk₁ hea hka' hax).trans hpath) rfl
        rw [after_of_run_eq hrun₁] at hpath
        rw [hrun₁, superclassOfHandle_run_single_bind he₂ hk₂ heb hkb' hby]
        -- the superclasses of the attached entities first, then their singleton classes
        refine (Agree.bind hrec fun ra rb A₁ B₁ R₁ hra hT₁ hrel => ?_).weaken fun h => h.elim id id
        rcases optionRel_cases hrel with ⟨p, q, hpq, rfl, rfl⟩ | ⟨rfl, rfl⟩
        · have hpath₁ : Grows (after (singletonClass p) A₁) Astar := by
            rw [after_bind_of_ok hra] at hpath
            rw [← after_map some]
            exact hpath
          exact agree_map some some (fun _ _ _ _ h => .some h) (singletonClass_twin hT₁ hpq hpath₁)
        · -- the root class: its superclass is `Class`
          exact ⟨R₁, hT₁, .some (hT₁.link_builtin (by decide)), fun _ h => h⟩

/-- Classes: corresponding entities have corresponding classes. -/
theorem classOf_twin (hT : Twin L Astar A B R) {x y : Handle} (hl : Link A R x y) :
    Agree L Astar False R ValLink ((classOf (.object x)).run A) ((classOf (.object y)).run B) := by
  obtain ⟨e₁, e₂, he₁, he₂, hk, -⟩ := hT.corr hl
  rw [classOf_run_object he₁, classOf_run_object he₂]
  refine ⟨R, hT, ?_, fun _ h => h⟩
  cases hk₁ : e₁.kind <;> cases hk₂ : e₂.kind <;> rw [hk₁, hk₂] at hk <;>
    simp only [Kind.Corr] at hk
  case inst.inst => exact hk
  -- the class of a class or of a singleton class is `Class`
  all_goals exact hT.link_builtin (by decide)

theorem superclassOf_twin (hT : Twin L Astar A B R) {x y : Handle} (hl : Link A R x y)
    (hpath : Grows (after (superclassOf (.object x)) A) Astar) :
    Agree L Astar False R ValLink
      ((superclassOf (.object x)).run A) ((superclassOf (.object y)).run B) := by
  rw [superclassOf_run_map, superclassOf_run_map]
  rw [after_of_run_eq (superclassOf_run_map A x), after_map] at hpath
  refine agree_map _ _ (fun _ _ p q h => ?_) (superclassOfHandle_twin hT hl hpath)
  -- `nil` for the root class
  cases h with
  | some h => exact h
  | none => rfl

theorem identityDescriptor_twin (hT : Twin L Astar A B R) {x y : Handle} (hl : Link A R x y)
    (hpath : Grows (after (identityDescriptor (.object x)) A) Astar) :
    Agree L Astar False R ValLink
      ((identityDescriptor (.object x)).run A) ((identityDescriptor (.object y)).run B) := by
  rw [identityDescriptor_run_object, identityDescriptor_run_object]
  rw [after_of_run_eq (identityDescriptor_run_object A x), after_map] at hpath
  exact agree_map Value.object Value.object (fun _ _ _ _ h => h) (singletonClass_twin hT hl hpath)

/-- Names: corresponding entities have the same name. -/
theorem nameOf_twin (hT : Twin L Astar A B R) {x y : Handle} (hl : Link A R x y) :
    Agree L Astar False R ValLink ((nameOf (.object x)).run A) ((nameOf (.object y)).run B) := by
  obtain ⟨e₁, e₂, he₁, he₂, hk, hname⟩ := hT.corr hl
  rw [nameOf_run_object he₁, nameOf_run_object he₂, ← hname]
  cases hk₁ : e₁.kind <;> cases hk₂ : e₂.kind <;> rw [hk₁, hk₂] at hk <;>
    simp only [Kind.Corr] at hk
  case inst.inst => exact fun _ hR => by rw [hT.inspect_link hl hR]
  case single.single => exact ⟨R, hT, rfl, fun _ h => h⟩
  case cls.cls => exact ⟨R, hT, valLink_self_of_handle?_none (by cases e₁.name <;> rfl), fun _ h => h⟩

/-- Both evaluations allocate entities of corresponding kinds: the two are a fresh pair, or
    the second space is full. -/
theorem allocate_twin (hT : Twin L Astar A B R) {k₁ k₂ : Kind}
    (hA : A.size < capacity → Grow A (A.push ⟨k₁, none, none⟩))
    (hB : B.size < capacity → Grow B (B.push ⟨k₂, none, none⟩)) (hk : k₁.Corr (Link A R) k₂)
    (hpath : Grows (after (allocate k₁ none) A) Astar) :
    Agree L Astar True R Link ((allocate k₁ none).run A) ((allocate k₂ none).run B) := by
  rw [allocate_run, allocate_run]
  by_cases hcA : A.size < capacity
  · rw [after_of_ok (by rw [allocate_run, if_pos hcA])] at hpath
    rw [if_pos hcA]
    by_cases hcB : B.size < capacity
    · rw [if_pos hcB]
      exact ⟨_, hT.push_pair (hA hcA) (hB hcB) hk hcB hpath, .inl (.inr ⟨rfl, rfl⟩),
        fun h => absurd trivial h⟩
    · rw [if_neg hcB]
      exact ⟨rfl, .inl trivial⟩
  · -- the second space is at least as full as the first
    rw [if_neg hcA, if_neg fun hcB => hcA (Nat.lt_of_le_of_lt hT.size_le hcB)]
    exact fun h => absurd trivial h

/-- New instances: a fresh pair of instances of corresponding classes, or of anonymous
    classes for `Class`. -/
theorem newInstance_twin (hT : Twin L Astar A B R) {x y : Handle} (hl : Link A R x y)
    (hpath : Grows (after (newInstance x) A) Astar) :
    Agree L Astar True R Link ((newInstance x).run A) ((newInstance y).run B) := by
  by_cases hx : x = .classClass
  · -- a new anonymous class below `Object`, in both evaluations
    subst hx
    obtain rfl := hT.eq_of_link_builtin hl (.inl (by decide))
    obtain ⟨e, he⟩ := live_iff_get?.1
      (show A.Live .object from hT.wellFormedA.live_builtin (by decide))
    obtain ⟨e', he', hee', -⟩ := hT.growsAB.keeps he
    have hr₁ := @defineClass_run A none none e he
    have hr₂ := @defineClass_run B none none e' he'
    simp only [Option.getD_none] at hr₁ hr₂
    rw [hee'.kind] at hr₂
    rw [after, newInstance_run_classClass, hr₁] at hpath
    rw [newInstance_run_classClass, hr₁, newInstance_run_classClass, hr₂]
    by_cases hok : e.kind.isClass ∧ Handle.object ≠ .classClass
    · rw [if_pos hok, ← after] at hpath
      rw [if_pos hok, if_pos hok]
      exact allocate_twin hT (fun _ => .defineClass none he hok.1 hok.2)
        (fun _ => .defineClass none he' (hee'.kind ▸ hok.1) hok.2)
        (.some (hT.link_builtin (by decide))) hpath
    · rw [if_neg hok, if_neg hok]
      exact fun h => absurd trivial h
  · have hy : y ≠ .classClass := fun h =>
      hx ((hT.eq_of_link_builtin hl (.inr (by rw [h]; decide))).symm.trans h)
    obtain ⟨e₁, e₂, he₁, he₂, hk, -⟩ := hT.corr hl
    rw [after, newInstance_run hx he₁] at hpath
    rw [newInstance_run hx he₁, newInstance_run hy he₂, hk.isClass_eq]
    by_cases hc : e₁.kind.isClass
    · rw [if_pos hc, ← after] at hpath
      rw [if_pos hc, if_pos hc]
      exact allocate_twin hT (fun _ => .newInstance he₁ hc hx)
        (fun _ => .newInstance he₂ (hk.isClass_eq ▸ hc) hy) hl hpath
    · rw [if_neg hc, if_neg hc]
      exact fun h => absurd trivial h

theorem instantiate_twin (hT : Twin L Astar A B R) {x y : Handle} (hl : Link A R x y)
    (hpath : Grows (after (instantiate (.object x)) A) Astar) :
    Agree L Astar True R ValLink
      ((instantiate (.object x)).run A) ((instantiate (.object y)).run B) := by
  rw [instantiate_run_object, instantiate_run_object]
  rw [after_of_run_eq (instantiate_run_object A x), after_map] at hpath
  exact agree_map Value.object Value.object (fun _ _ _ _ h => h) (newInstance_twin hT hl hpath)

end Twin

end Space

end ReflectCheck
