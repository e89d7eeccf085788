import ReflectCheck.Expr.Eval
import ReflectCheck.Proofs.Space.Replay

/-!
# Evaluating an expression twice

An expression is a receiver followed by method calls, each applied to the value of the one
before. This module follows such an evaluation through the object space, one call at a
time, and compares two evaluations of one expression.

* `Expr.eval_grows`, `Expr.eval_fits`, `Expr.eval_live`: an evaluation only grows the
  space, keeps it within its capacity, and answers with a value of the space it leaves;
* `Expr.Method.apply_primitive`: on a value without a handle, every method answers the same
  in every space, without changing it;
* `Expr.applyAll_twin`, `Expr.eval_twin`: evaluated again, in a space grown from where a
  first evaluation ended, an expression gives a corresponding answer, made fresh only by
  its calls to `new`.
-/

namespace ReflectCheck

namespace Expr

open Space

theorem applyAll_cons (m : Method) (ms : List Method) (v : Value) :
    applyAll (m :: ms) v = m.apply v >>= applyAll ms := rfl

/-- The value the calls of an expression start from: its literal, or the value bound to its
    constant. -/
def Receiver.value (ns : Namespace) : Receiver → Except Fault Value
  | .literal v => .ok v
  | .constant path => ns.resolve path

theorem eval_run (e : Expr) (ns : Namespace) (s : Space) :
    (e.eval ns).run s =
      match e.receiver.value ns with
      | .ok v => (applyAll e.calls v).run s
      | .error f => .error f s := by
  simp only [eval]
  cases e.receiver with
  | literal v => rfl
  | constant path =>
    simp only [Receiver.value]
    cases ns.resolve path <;> rfl

theorem after_eval (e : Expr) (ns : Namespace) (s : Space) :
    after (e.eval ns) s =
      match e.receiver.value ns with
      | .ok v => after (applyAll e.calls v) s
      | .error _ => s := by
  simp only [after, eval_run]
  cases e.receiver.value ns <;> rfl

/-! ### One call -/

namespace Method

/-- On a value without a handle, every method answers without the space: with the built-in
    class of the value, or with a fault. -/
theorem apply_primitive (m : Method) {v : Value} (hv : v.handle? = none) :
    (∃ c : Handle, c.slot < builtinCount ∧ ∀ s, (m.apply v).run s = .ok (.object c) s) ∨
      ∃ f, ∀ s, (m.apply v).run s = .error f s := by
  -- a table: each method either reads the built-in class of the value or refuses it
  cases v with
  | object h => cases hv
  | bool b => cases b <;> cases m <;> first
    | exact .inl ⟨_, by decide, fun _ => rfl⟩
    | exact .inr ⟨_, fun s => unsupported_run_of_handle?_none s _ rfl⟩
  | _ => cases m <;> first
    | exact .inl ⟨_, by decide, fun _ => rfl⟩
    | exact .inr ⟨_, fun s => unsupported_run_of_handle?_none s _ rfl⟩

theorem after_apply_grows (m : Method) (v : Value) (s : Space) :
    Grows s (after (m.apply v) s) := by
  cases m with
  | cls =>
    rw [apply, after_classOf]
    exact .refl s
  | superclass => exact after_superclassOf_grows v s
  | singletonClass => exact after_identityDescriptor_grows v s
  | new => exact after_instantiate_grows v s
  | name =>
    rw [apply, after_nameOf]
    exact .refl s

theorem fits_after_apply (m : Method) {s : Space} (hs : s.Fits) (v : Value) :
    (after (m.apply v) s).Fits := by
  cases m with
  | cls => exact hs.after_classOf v
  | superclass => exact hs.after_superclassOf v
  | singletonClass => exact hs.after_identityDescriptor v
  | new => exact hs.after_instantiate v
  | name => exact hs.after_nameOf v

/-- In a well-formed space, a method answers a value of the space with a value of the space
    it leaves. -/
theorem apply_live (m : Method) {s s' : Space} (hw : s.WellFormed) {v w : Value}
    (hv : s.LiveValue v) (hr : (m.apply v).run s = .ok w s') : s'.LiveValue w := by
  cases hh : v.handle? with
  | none =>
    rcases m.apply_primitive hh with ⟨c, hc, hrun⟩ | ⟨f, hrun⟩
    · rw [hrun] at hr
      cases hr
      exact hw.live_builtin hc
    · rw [hrun] at hr
      cases hr
  | some h =>
    obtain rfl : v = .object h := by
      cases v with
      | object h' => cases hh; rfl
      | _ => cases hh
    obtain ⟨e, he⟩ := live_iff_get?.1 hv
    cases m with
    | cls =>
      rw [apply, classOf_run_object he] at hr
      cases hr
      -- the class of an instance is linked from it; any other class is `Class`
      cases hk : e.kind with
      | inst c =>
        have hc := hw.links_live he
        rw [hk] at hc
        exact hc
      | cls | single => exact hw.live_builtin (by decide)
    | superclass =>
      rw [apply, superclassOf_run_map] at hr
      obtain ⟨r, hr', rfl⟩ := run_map_eq_ok hr
      cases r with
      | none => trivial
      | some p => exact superclassOfHandle_live hw hr' p rfl
    | singletonClass =>
      rw [apply, identityDescriptor_run_object] at hr
      obtain ⟨t, hr', rfl⟩ := run_map_eq_ok hr
      exact singletonClass_live hw hr'
    | new =>
      rw [apply, instantiate_run_object] at hr
      obtain ⟨t, hr', rfl⟩ := run_map_eq_ok hr
      exact newInstance_live hr'
    | name =>
      rw [apply, nameOf_run_object he] at hr
      cases hk : e.kind <;> rw [hk] at hr <;> simp only at hr
      case cls =>
        cases hr
        cases e.name <;> trivial
      case single =>
        cases hr
        trivial
      case inst => cases hr

end Method

/-! ### A chain of calls -/

theorem after_applyAll_grows (ms : List Method) (v : Value) (s : Space) :
    Grows s (after (applyAll ms v) s) := by
  induction ms generalizing v s with
  | nil => exact .refl s
  | cons m ms ih =>
    rw [applyAll_cons]
    cases hm : (m.apply v).run s with
    | ok w s' =>
      rw [after_bind_of_ok hm]
      have hg := m.after_apply_grows v s
      rw [after_of_ok hm] at hg
      exact hg.trans (ih w s')
    | error f s' =>
      rw [after_bind_of_error hm]
      have hg := m.after_apply_grows v s
      rwa [after_of_error hm] at hg

/-- The space after the first call of a chain grows into the space after the whole chain. -/
theorem after_apply_grows_applyAll (m : Method) (ms : List Method) (v : Value) (s : Space) :
    Grows (after (m.apply v) s) (after (applyAll (m :: ms) v) s) := by
  rw [applyAll_cons]
  cases hm : (m.apply v).run s with
  | ok w s' =>
    rw [after_bind_of_ok hm, after_of_ok hm]
    exact after_applyAll_grows ms w s'
  | error f s' =>
    rw [after_bind_of_error hm, after_of_error hm]
    exact .refl s'

theorem fits_after_applyAll (ms : List Method) {s : Space} (hs : s.Fits) (v : Value) :
    (after (applyAll ms v) s).Fits := by
  induction ms generalizing v s with
  | nil => exact hs
  | cons m ms ih =>
    rw [applyAll_cons]
    have hf := m.fits_after_apply hs v
    cases hm : (m.apply v).run s with
    | ok w s' =>
      rw [after_of_ok hm] at hf
      rw [after_bind_of_ok hm]
      exact ih hf w
    | error f s' =>
      rw [after_of_error hm] at hf
      rwa [after_bind_of_error hm]

theorem applyAll_live (ms : List Method) {s s' : Space} (hw : s.WellFormed) {v w : Value}
    (hv : s.LiveValue v) (hr : (applyAll ms v).run s = .ok w s') : s'.LiveValue w := by
  induction ms generalizing v s with
  | nil =>
    cases hr
    exact hv
  | cons m ms ih =>
    rw [applyAll_cons, EStateM.run_bind] at hr
    cases hm : (m.apply v).run s with
    | ok u s₁ =>
      rw [hm] at hr
      have hg := m.after_apply_grows v s
      rw [after_of_ok hm] at hg
      exact ih (hg.wellFormed hw) (m.apply_live hw hv hm) hr
    | error f s₁ =>
      rw [hm] at hr
      cases hr

/-! ### Two evaluations -/

variable {L : Nat} {Astar A B : Space} {R : Handle → Handle → Prop}

/-- One call, in both evaluations: only `new` makes something fresh. -/
theorem Method.apply_twin (hT : Twin L Astar A B R) (m : Method) {v w : Value}
    (hl : ValLink A R v w) (hpath : Grows (after (m.apply v) A) Astar) :
    Agree L Astar (m = .new) R ValLink ((m.apply v).run A) ((m.apply w).run B) := by
  rcases hl.cases with ⟨x, y, rfl, rfl, hxy⟩ | ⟨rfl, hv⟩
  · cases m with
    | cls => exact (classOf_twin hT hxy).weaken False.elim
    | superclass => exact (superclassOf_twin hT hxy hpath).weaken False.elim
    | singletonClass => exact (identityDescriptor_twin hT hxy hpath).weaken False.elim
    | new => exact (instantiate_twin hT hxy hpath).weaken fun _ => rfl
    | name => exact (nameOf_twin hT hxy).weaken False.elim
  · -- a value without a handle: the same answer in both spaces, which do not change
    rcases m.apply_primitive hv with ⟨c, hc, hrun⟩ | ⟨f, hrun⟩
    · rw [hrun, hrun]
      exact ⟨R, hT, hT.link_builtin hc, fun _ h => h⟩
    · rw [hrun, hrun]
      exact fun _ _ => rfl

/-- A chain of calls, in both evaluations, by induction on the chain: the comparison of the
    first call and of the rest, from the answers it gives. -/
theorem applyAll_twin (ms : List Method) {v w : Value} (hT : Twin L Astar A B R)
    (hl : ValLink A R v w) (hpath : Grows (after (applyAll ms v) A) Astar) :
    Agree L Astar (.new ∈ ms) R ValLink ((applyAll ms v).run A) ((applyAll ms w).run B) := by
  induction ms generalizing v w A B R with
  | nil => exact ⟨R, hT, hl, fun _ h => h⟩
  | cons m ms ih =>
    have h₁ := m.apply_twin hT hl ((after_apply_grows_applyAll m ms v A).trans hpath)
    rw [applyAll_cons] at hpath ⊢
    rw [applyAll_cons]
    refine (h₁.bind fun v' w' A' B' R' hm hT' hl' => ih hT' hl' ?_).weaken ?_
    · rwa [after_bind_of_ok hm] at hpath
    · rintro (rfl | h)
      · exact List.mem_cons_self
      · exact List.mem_cons_of_mem m h

/-! ### Expressions -/

/-- The literal an expression starts from holds no handle. -/
theorem parseReceiver_literal {ts rest : List Token} {v : Value}
    (h : parseReceiver ts = .ok (.literal v, rest)) : v.handle? = none := by
  unfold parseReceiver at h
  split at h
  · cases h
  · cases h
    rfl
  · cases h
    rfl
  · -- a name is a literal only when it is `nil`, `true` or `false`
    split_ifs at h
    all_goals first
      | (cases h; rfl)
      | (split at h <;> cases h)
  · cases h

theorem except_bind_eq_ok {ε α β : Type} {x : Except ε α} {f : α → Except ε β} {b : β}
    (h : x >>= f = .ok b) : ∃ a, x = .ok a ∧ f a = .ok b := by
  cases x with
  | error e => cases h
  | ok a => exact ⟨a, rfl, h⟩

theorem parse_literal {text : String} {e : Expr} (he : parse text = .ok e) {v : Value}
    (hv : e.receiver = .literal v) : v.handle? = none := by
  unfold parse at he
  cases hp : scan text.toList >>= parseTokens with
  | error reason =>
    rw [hp] at he
    cases he
  | ok rc =>
    rw [hp] at he
    cases he
    -- the receiver is the one read from the tokens
    obtain ⟨ts, -, hts⟩ := except_bind_eq_ok hp
    obtain ⟨⟨receiver, rest⟩, hr, hts⟩ := except_bind_eq_ok hts
    obtain ⟨calls, -, hts⟩ := except_bind_eq_ok hts
    cases hts
    subst hv
    exact parseReceiver_literal hr

theorem eval_grows (e : Expr) (ns : Namespace) (s : Space) : Grows s (after (e.eval ns) s) := by
  rw [after_eval]
  cases e.receiver.value ns with
  | ok v => exact after_applyAll_grows e.calls v s
  | error f => exact .refl s

theorem eval_fits (e : Expr) (ns : Namespace) {s : Space} (hs : s.Fits) :
    (after (e.eval ns) s).Fits := by
  rw [after_eval]
  cases e.receiver.value ns with
  | ok v => exact fits_after_applyAll e.calls hs v
  | error f => exact hs

/-- An expression whose calls start from a value of the space answers with a value of the
    space it leaves. -/
theorem eval_live {e : Expr} {ns : Namespace} {s s' : Space} (hw : s.WellFormed)
    (hstart : ∀ v, e.receiver.value ns = .ok v → s.LiveValue v) {w : Value}
    (hr : (e.eval ns).run s = .ok w s') : s'.LiveValue w := by
  rw [eval_run] at hr
  cases hv : e.receiver.value ns with
  | ok v =>
    rw [hv] at hr
    exact applyAll_live e.calls hw (hstart v hv) hr
  | error f =>
    rw [hv] at hr
    cases hr

/-- An expression evaluated again, from a space grown from where a first evaluation ended:
    the answers correspond, and only calls to `new` make them differ. -/
theorem eval_twin {e : Expr} {ns : Namespace} (hT : Twin L Astar A B (fun _ _ => False))
    (hstart : ∀ v, e.receiver.value ns = .ok v → A.LiveValue v)
    (hpath : Grows (after (e.eval ns) A) Astar) :
    Agree L Astar (.new ∈ e.calls) (fun _ _ => False) ValLink
      ((e.eval ns).run A) ((e.eval ns).run B) := by
  rw [after_eval] at hpath
  rw [eval_run, eval_run]
  cases hv : e.receiver.value ns with
  | ok v =>
    rw [hv] at hpath
    exact applyAll_twin e.calls hT (valLink_self_of_live (hstart v hv)) hpath
  | error f => exact fun _ _ => rfl

end Expr

end ReflectCheck
