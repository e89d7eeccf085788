import Mathlib.Data.List.Perm.Basic
import ReflectCheck.Proofs.Expr.Paths

/-!
# The bindings of a namespace

A namespace keeps its bindings sorted by name, but what matters to its readers is which
names it binds to which values: defining a name not bound yet adds one binding, and in a
namespace binding each name once `find?` reads the binding of each name. So a namespace is
described up to the order of its bindings (`List.Perm`).

* `Namespace.find?_eq_some_iff`: in a namespace binding each name once, a name finds the
  value it is bound to;
* `Namespace.withBuiltins_perm`: a fresh namespace binds the built-in classes, in any module;
* `Namespace.resolve_qualified`: inside module `m`, the path `m::A` is looked up as `m::A`,
  since no name bound is `m::m::A`.
-/

namespace ReflectCheck.Namespace

/-- The bindings of the built-in classes. -/
def builtinBindings : List (String × Value) :=
  Space.builtinConstants.map fun p => (p.1, .object p.2)

theorem builtinBindings_names_nodup : (builtinBindings.map Prod.fst).Nodup := by decide

theorem isConstantIdentifier_builtin :
    ∀ p ∈ builtinBindings, Expr.isConstantIdentifier p.1 = true := by decide

theorem insertSorted_perm {name : String} {v : Value} {l : List (String × Value)}
    (h : name ∉ l.map Prod.fst) : (insertSorted name v l).Perm ((name, v) :: l) := by
  induction l with
  | nil => exact .refl _
  | cons p l ih =>
    obtain ⟨n, w⟩ := p
    simp only [List.map_cons, List.mem_cons, not_or] at h
    simp only [insertSorted]
    split_ifs with hlt heq
    · exact .refl _
    · exact absurd heq h.1
    · exact ((ih h.2).cons (n, w)).trans (.swap (name, v) (n, w) l)

/-! ### Looking a name up -/

theorem find?_eq_none_iff {ns : Namespace} {n : String} :
    ns.find? n = none ↔ n ∉ ns.constants.map Prod.fst := by
  simp only [find?, Option.map_eq_none_iff, List.find?_eq_none, List.mem_map, not_exists, not_and]
  constructor
  · rintro h ⟨n', w⟩ hm rfl
    exact h _ hm (by simp)
  · rintro h ⟨n', w⟩ hm hn
    exact h _ hm (by simpa using hn)

theorem find?_eq_some_iff {ns : Namespace} (hnd : (ns.constants.map Prod.fst).Nodup)
    {n : String} {v : Value} : ns.find? n = some v ↔ (n, v) ∈ ns.constants := by
  obtain ⟨module, l⟩ := ns
  simp only [find?] at hnd ⊢
  induction l with
  | nil => simp
  | cons p l ih =>
    obtain ⟨n', w⟩ := p
    rw [List.map_cons, List.nodup_cons] at hnd
    by_cases h : n' = n
    · -- the first binding is the name's, and no later one binds it again
      subst h
      have hv : (n', v) ∉ l := fun hm => hnd.1 (List.mem_map.2 ⟨_, hm, rfl⟩)
      simp [hv, eq_comm]
    · simp [h, Ne.symm h, ih hnd.2]

theorem contains_iff {ns : Namespace} {n : String} :
    ns.contains n = true ↔ n ∈ ns.constants.map Prod.fst := by
  rw [contains, Option.isSome_iff_ne_none, ne_eq, find?_eq_none_iff, not_not]

/-! ### Defining names -/

theorem define_perm {ns : Namespace} {name : String} {v : Value}
    (h : name ∉ ns.constants.map Prod.fst) :
    (ns.define name v).2.constants.Perm ((name, v) :: ns.constants) :=
  insertSorted_perm h

@[simp] theorem module_define (ns : Namespace) (name : String) (v : Value) :
    (ns.define name v).2.module = ns.module := rfl

@[simp] theorem qualify_define (ns : Namespace) (name : String) (v : Value) (n : String) :
    (ns.define name v).2.qualify n = ns.qualify n := rfl

/-- The qualified names of a namespace depend only on its module. -/
theorem qualify_of_module_eq {ns ns' : Namespace} (h : ns.module = ns'.module) (name : String) :
    ns.qualify name = ns'.qualify name := by
  unfold qualify
  rw [h]

/-- A fresh namespace, in any module, binds the built-in classes and nothing else. -/
theorem withBuiltins_perm (module : Option String) :
    (withBuiltins module).module = module ∧
      (withBuiltins module).constants.Perm builtinBindings := by
  -- every name the fold defines is not bound yet
  suffices key : ∀ (l : List (String × Handle)) (ns : Namespace),
      (l.map Prod.fst ++ ns.constants.map Prod.fst).Nodup →
      (l.foldl (fun ns (q : String × Handle) => (ns.define q.1 (.object q.2)).2) ns).module =
          ns.module ∧
        (l.foldl (fun ns (q : String × Handle) => (ns.define q.1 (.object q.2)).2)
          ns).constants.Perm ((l.map fun q => (q.1, Value.object q.2)) ++ ns.constants) by
    have hnd : (Space.builtinConstants.map Prod.fst ++ (empty module).constants.map Prod.fst).Nodup := by
      simpa [builtinBindings, empty, Function.comp_def] using builtinBindings_names_nodup
    have hkey := key Space.builtinConstants (empty module) hnd
    simp only [empty, List.append_nil] at hkey
    exact hkey
  intro l
  induction l with
  | nil => exact fun ns _ => ⟨rfl, .refl _⟩
  | cons q l ih =>
    intro ns hnd
    rw [List.map_cons, List.cons_append] at hnd
    have hfresh : q.1 ∉ ns.constants.map Prod.fst := fun hq =>
      (List.nodup_cons.1 hnd).1 (List.mem_append_right _ hq)
    have hperm := define_perm (v := .object q.2) hfresh
    have hnd' : (l.map Prod.fst ++ (ns.define q.1 (.object q.2)).2.constants.map Prod.fst).Nodup :=
      (((hperm.map Prod.fst).append_left _).trans List.perm_middle).nodup_iff.2 hnd
    obtain ⟨hm, hp⟩ := ih _ hnd'
    exact ⟨hm, hp.trans ((hperm.append_left _).trans List.perm_middle)⟩

/-! ### Resolving paths -/

theorem resolve_of_inModule {ns : Namespace} {m : String} {path : List String} {v : Value}
    (hm : ns.module = some m) (h : ns.find? (m ++ "::" ++ "::".intercalate path) = some v) :
    ns.resolve path = .ok v := by
  simp only [resolve, hm, Option.bind_some, h]

theorem resolve_of_find? {ns : Namespace} {path : List String} {v : Value}
    (hin : ∀ m, ns.module = some m → ns.find? (m ++ "::" ++ "::".intercalate path) = none)
    (h : ns.find? ("::".intercalate path) = some v) : ns.resolve path = .ok v := by
  unfold resolve
  cases hm : ns.module with
  | none => simp [h]
  | some m => simp [hin m hm, h]

/-- Inside module `m`, where every name bound is a single segment or a single segment inside
    `m`, the path of the segments of `m` and then `n` is looked up as `m::n`. -/
theorem resolve_qualified {ns : Namespace} {m n : String} {segs : List String} {v : Value}
    (hm : ns.module = some m) (hsegs : "::".intercalate segs = m) (hne : segs ≠ [])
    (hkeys : ∀ k ∈ ns.constants.map Prod.fst,
      ':' ∉ k.toList ∨ ∃ k', k = m ++ "::" ++ k' ∧ ':' ∉ k'.toList)
    (h : ns.find? (m ++ "::" ++ n) = some v) : ns.resolve (segs ++ [n]) = .ok v := by
  have hjoin : "::".intercalate (segs ++ [n]) = m ++ "::" ++ n := by
    rw [Expr.intercalate_append_singleton hne, hsegs]
  refine resolve_of_find? (fun m' hm' => ?_) (hjoin ▸ h)
  -- looked up inside the module, the path is `m::m::n`, which no binding has
  obtain rfl : m = m' := Option.some.inj (hm.symm.trans hm')
  rw [hjoin, find?_eq_none_iff]
  intro hk
  rcases hkeys _ hk with hc | ⟨k', hk', hc⟩
  · exact hc (by simp)
  · have hl := congrArg String.toList hk'
    simp only [String.toList_append, List.append_assoc] at hl
    have hcancel : m.toList ++ ("::".toList ++ n.toList) = k'.toList :=
      List.append_cancel_left (List.append_cancel_left hl)
    exact hc (by rw [← hcancel]; simp)

end ReflectCheck.Namespace
