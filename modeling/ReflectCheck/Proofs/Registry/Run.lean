import ReflectCheck.Registry

/-!
# Lazy runs of a registry

`Registry.runAll` evaluates a registry one expectation per step of a `Run`, so a producer
runs only when its outcome is asked for. This module says what a run gives over any
number of steps.

One expectation first: its outcome is read off what its producer gives
(`Expectation.evaluate_blank`, `evaluate_value`, `evaluate_fault`, `evaluate_panic`), and
the context it leaves is its producer's unless its description is blank
(`Expectation.evaluate_context`). Then a whole run, by induction on the number of steps
(`Run.nextN_state`, `Run.length_nextN`, `Run.getElem?_nextN`): after `k` steps of a run over
`n` expectations, `min k n` results have come, the `j`-th is the outcome of the `j`-th
expectation in the context the producers before it left, and the context is what the
producers of the well-formed expectations among the first `k` made of the start, each run
once and in order (`contextAfter`). The eager `Registry.take` gives the same outcomes
(`Registry.take_eq_of_nextN`).
-/

namespace ReflectCheck

variable {C : Type}

namespace Expectation

/-- The context an expectation leaves: its producer's, when its description is not blank. -/
def effect (e : Expectation C) (ctx : C) : C :=
  if e.wellFormed then (e.producer ctx).2 else ctx

/-- The rules of one evaluation: evaluating `e` at position `index` from context `ctx`
    yields a result and the context left. -/
inductive Yields (e : Expectation C) (index : Nat) (capture : Bool) (ctx : C) :
    Except Payload Outcome × C → Prop
  /-- A blank description gives the `missingDescription` fault and runs no producer. -/
  | blank : e.wellFormed = false →
      Yields e index capture ctx
        (.ok ⟨index, e.description, .fixtureError .missingDescription, none, e.expected, none⟩,
          ctx)
  /-- A value passes exactly when it is the expected one, under the comparison that the
      kinds of the two select. -/
  | value {a : Value} {ctx' : C} : e.wellFormed = true → e.producer ctx = (.value a, ctx') →
      Yields e index capture ctx
        (.ok ⟨index, e.description, if e.expected = a then .pass else .fail,
          some (Comparison.select e.expected a), e.expected, some a⟩, ctx')
  /-- A fault is a fixture error, with no comparison and no value. -/
  | fault {f : Fault} {ctx' : C} : e.wellFormed = true → e.producer ctx = (.fault f, ctx') →
      Yields e index capture ctx
        (.ok ⟨index, e.description, .fixtureError f, none, e.expected, none⟩, ctx')
  /-- A captured panic is the `panicked` fault with the panic's message. -/
  | captured {p : Payload} {ctx' : C} : e.wellFormed = true →
      e.producer ctx = (.panic p, ctx') → capture = true →
      Yields e index capture ctx
        (.ok ⟨index, e.description, .fixtureError (.panicked p.text), none, e.expected, none⟩,
          ctx')
  /-- A panic that is not captured escapes. -/
  | escaped {p : Payload} {ctx' : C} : e.wellFormed = true →
      e.producer ctx = (.panic p, ctx') → capture = false →
      Yields e index capture ctx (.error p, ctx')

section Evaluate

variable (e : Expectation C) (index : Nat) (capture : Bool) (ctx : C)

/-- Evaluation follows the rules. -/
theorem evaluate_yields : e.Yields index capture ctx (e.evaluate index capture ctx) := by
  cases hw : e.wellFormed with
  | false =>
    simp only [evaluate, produce, hw]
    exact .blank hw
  | true =>
    rcases hp : e.producer ctx with ⟨produced, ctx'⟩
    cases produced with
    | value a =>
      simp only [evaluate, produce, hw, hp, if_true, Comparison.compare, Comparison.holds_select_iff]
      exact .value hw hp
    | fault f =>
      simp only [evaluate, produce, hw, hp, if_true]
      exact .fault hw hp
    | panic p =>
      cases capture with
      | false =>
        simp only [evaluate, produce, hw, hp, if_true]
        exact .escaped hw hp rfl
      | true =>
        simp only [evaluate, produce, hw, hp, if_true]
        exact .captured hw hp rfl

variable {e index capture ctx}

/-- The context left is the producer's, or the same one when the description is blank. -/
theorem Yields.context_eq {result : Except Payload Outcome} {ctx' : C}
    (h : e.Yields index capture ctx (result, ctx')) : ctx' = e.effect ctx := by
  cases h with
  | blank hw => simp [effect, hw]
  | value hw hp | fault hw hp | captured hw hp _ | escaped hw hp _ => simp [effect, hw, hp]

/-- With panics captured, every expectation gives an outcome. -/
theorem Yields.ok_of_capture {result : Except Payload Outcome} {ctx' : C}
    (h : e.Yields index true ctx (result, ctx')) : ∃ o, result = .ok o := by
  cases h with
  | escaped _ _ hc => cases hc
  | blank | value | fault | captured => exact ⟨_, rfl⟩

variable (e index capture ctx)

/-- Evaluating an expectation leaves the context its producer leaves, or the same context
    when the description is blank. -/
theorem evaluate_context : (e.evaluate index capture ctx).2 = e.effect ctx :=
  (evaluate_yields e index capture ctx).context_eq

variable {e index capture ctx}

/-- The rules determine the evaluation. -/
theorem Yields.evaluate_eq {r : Except Payload Outcome × C} (h : e.Yields index capture ctx r) :
    e.evaluate index capture ctx = r := by
  cases h with
  | blank hw =>
    simp only [evaluate, produce, hw]
    rfl
  | value hw hp =>
    simp only [evaluate, produce, hw, hp, if_true, Comparison.compare, Comparison.holds_select_iff]
  | fault hw hp => simp only [evaluate, produce, hw, hp, if_true]
  | captured hw hp hc => simp only [evaluate, produce, hw, hp, hc, if_true]
  | escaped hw hp hc =>
    simp only [evaluate, produce, hw, hp, hc, if_true]
    rfl

end Evaluate

end Expectation

/-- The context after the first `k` of `es` were evaluated from `ctx`: the producers of the
    well-formed ones among them have run, each once, in order. -/
def contextAfter (es : List (Expectation C)) (k : Nat) (ctx : C) : C :=
  ((es.take k).filter (·.wellFormed)).foldl (fun c e => (e.producer c).2) ctx

@[simp] theorem contextAfter_zero (es : List (Expectation C)) (ctx : C) :
    contextAfter es 0 ctx = ctx := rfl

@[simp] theorem contextAfter_nil (k : Nat) (ctx : C) : contextAfter [] k ctx = ctx := by
  simp [contextAfter]

theorem contextAfter_succ_cons (e : Expectation C) (es : List (Expectation C)) (k : Nat)
    (ctx : C) : contextAfter (e :: es) (k + 1) ctx = contextAfter es k (e.effect ctx) := by
  unfold contextAfter Expectation.effect
  cases hw : e.wellFormed <;> simp [hw]

/-- One more expectation evaluated: its producer runs on the context before it, if its
    description is not blank. -/
theorem contextAfter_succ {es : List (Expectation C)} {j : Nat} {e : Expectation C}
    (he : es[j]? = some e) (ctx : C) :
    contextAfter es (j + 1) ctx = e.effect (contextAfter es j ctx) := by
  unfold contextAfter Expectation.effect
  rw [List.take_add_one, he]
  cases hw : e.wellFormed <;> simp [List.filter_append, hw]

namespace Run

@[simp] theorem next_nil (index : Nat) (ctx : C) (capture : Bool) :
    next ⟨[], index, ctx, capture⟩ = none := rfl

theorem next_cons (e : Expectation C) (rest : List (Expectation C)) (index : Nat) (ctx : C)
    (capture : Bool) :
    next ⟨e :: rest, index, ctx, capture⟩ =
      some ((e.evaluate index capture ctx).1,
        ⟨rest, index + 1, (e.evaluate index capture ctx).2, capture⟩) := rfl

/-- A run ends exactly when no expectation is left. -/
theorem next_eq_none_iff (run : Run C) : run.next = none ↔ run.len = 0 := by
  obtain ⟨pending, index, ctx, capture⟩ := run
  cases pending with
  | nil => simp [len]
  | cons e rest => simp [next_cons, len]

/-- The results of the next `k` steps of a run, and the run after them; fewer results once
    the run has ended. -/
def nextN : Nat → Run C → List (Except Payload Outcome) × Run C
  | 0, run => ([], run)
  | k + 1, run =>
    match run.next with
    | none => ([], run)
    | some (result, run') => (nextN k run').map (result :: ·) id

section Steps

variable (k : Nat) (index : Nat) (ctx : C) (capture : Bool)

@[simp] theorem nextN_zero (run : Run C) : nextN 0 run = ([], run) := rfl

@[simp] theorem nextN_succ_nil : nextN (k + 1) ⟨[], index, ctx, capture⟩ =
    ([], ⟨[], index, ctx, capture⟩) := rfl

theorem nextN_succ_cons (e : Expectation C) (rest : List (Expectation C)) :
    nextN (k + 1) ⟨e :: rest, index, ctx, capture⟩ =
      (nextN k ⟨rest, index + 1, (e.evaluate index capture ctx).2, capture⟩).map
        ((e.evaluate index capture ctx).1 :: ·) id := rfl

/-- After `k` steps a run has passed the first `k` expectations, or all of them, and its
    context is what their producers made of the start. -/
theorem nextN_state (es : List (Expectation C)) :
    (nextN k ⟨es, index, ctx, capture⟩).2 =
      ⟨es.drop k, index + min k es.length, contextAfter es k ctx, capture⟩ := by
  -- one expectation per step: the induction on `k` peels the first one off
  induction k generalizing es index ctx with
  | zero => simp
  | succ k ih =>
    cases es with
    | nil => simp
    | cons e rest =>
      rw [nextN_succ_cons, Prod.map_snd, id, ih, Expectation.evaluate_context,
        ← contextAfter_succ_cons]
      simp only [List.drop_succ_cons, List.length_cons, Run.mk.injEq, true_and, and_true]
      omega

/-- A run gives one result per step, until its expectations run out. -/
theorem length_nextN (es : List (Expectation C)) :
    (nextN k ⟨es, index, ctx, capture⟩).1.length = min k es.length := by
  induction k generalizing es index ctx with
  | zero => simp
  | succ k ih =>
    cases es with
    | nil => simp
    | cons e rest =>
      rw [nextN_succ_cons, Prod.map_fst, List.length_cons, ih, List.length_cons]
      omega

/-- The `j`-th result of a run is the outcome of the `j`-th expectation, in the context the
    producers before it left. -/
theorem getElem?_nextN {es : List (Expectation C)} {j : Nat} {e : Expectation C}
    (he : es[j]? = some e) (hj : j < k) :
    (nextN k ⟨es, index, ctx, capture⟩).1[j]? =
      some (e.evaluate (index + j) capture (contextAfter es j ctx)).1 := by
  induction k generalizing es index ctx j with
  | zero => omega
  | succ k ih =>
    cases es with
    | nil => simp at he
    | cons e₀ rest =>
      rw [nextN_succ_cons, Prod.map_fst]
      cases j with
      | zero =>
        obtain rfl : e₀ = e := by simpa using he
        simp
      | succ j =>
        have he' : rest[j]? = some e := by simpa using he
        rw [List.getElem?_cons_succ, ih _ _ he' (by omega), Expectation.evaluate_context,
          ← contextAfter_succ_cons, Nat.add_right_comm, Nat.add_assoc]

/-- With panics captured, every result of a run is an outcome. -/
theorem ok_of_mem_nextN (es : List (Expectation C)) {result : Except Payload Outcome}
    (h : result ∈ (nextN k ⟨es, index, ctx, true⟩).1) : ∃ o, result = .ok o := by
  induction k generalizing es index ctx with
  | zero => simp at h
  | succ k ih =>
    cases es with
    | nil => simp at h
    | cons e rest =>
      rw [nextN_succ_cons, Prod.map_fst, List.mem_cons] at h
      rcases h with rfl | h
      · exact (Expectation.evaluate_yields e index true ctx).ok_of_capture
      · exact ih _ _ rest h

end Steps

end Run

namespace Registry

/-- With panics captured, evaluating expectations gives an outcome for each. -/
theorem evalFrom_ok (es : List (Expectation C)) (index : Nat) (ctx : C) :
    ∃ os, (evalFrom true es index ctx).1 = .ok os ∧ os.length = es.length := by
  induction es generalizing index ctx with
  | nil => exact ⟨[], rfl, rfl⟩
  | cons e es ih =>
    have hy := e.evaluate_yields index true ctx
    rcases he : e.evaluate index true ctx with ⟨r, ctx'⟩
    rw [he] at hy
    obtain ⟨o, rfl⟩ := hy.ok_of_capture
    obtain ⟨os, hos, hlen⟩ := ih (index + 1) ctx'
    refine ⟨o :: os, ?_, by simp [hlen]⟩
    rcases hr : evalFrom true es (index + 1) ctx' with ⟨r', c'⟩
    rw [hr] at hos
    subst hos
    simp only [evalFrom, he, hr]

/-- With panics captured, the first expectation gives an outcome, and the rest go on from
    the context it leaves. -/
theorem evalFrom_true_cons (e : Expectation C) (es : List (Expectation C)) (index : Nat) (ctx : C) :
    ∃ o os ctx', e.evaluate index true ctx = (.ok o, ctx') ∧
      (evalFrom true es (index + 1) ctx').1 = .ok os ∧
      evalFrom true (e :: es) index ctx = (.ok (o :: os), (evalFrom true es (index + 1) ctx').2) := by
  have hy := e.evaluate_yields index true ctx
  rcases he : e.evaluate index true ctx with ⟨r, ctx'⟩
  rw [he] at hy
  obtain ⟨o, rfl⟩ := hy.ok_of_capture
  obtain ⟨os, hos, -⟩ := evalFrom_ok es (index + 1) ctx'
  refine ⟨o, os, ctx', rfl, hos, ?_⟩
  rcases hr : evalFrom true es (index + 1) ctx' with ⟨r', c'⟩
  rw [hr] at hos
  subst hos
  simp only [evalFrom, he, hr]

/-- What each evaluation gives, from a context that an invariant holds of and that the
    evaluation keeps, every outcome of expectations evaluated one after the other gives. -/
theorem evalFrom_forall_of_invariant {I : C → Prop} {Q : Outcome → Prop}
    {es : List (Expectation C)}
    (hstep : ∀ x ∈ es, ∀ {c c' : C} {index : Nat} {o : Outcome}, I c →
      x.evaluate index true c = (.ok o, c') → Q o ∧ I c')
    {c : C} (hc : I c) (index : Nat) {os : List Outcome}
    (h : (evalFrom true es index c).1 = .ok os) : ∀ o ∈ os, Q o := by
  induction es generalizing c index os with
  | nil =>
    cases h
    intro o ho
    cases ho
  | cons x es ih =>
    obtain ⟨o₁, os₁, c₁, he, hos, hcons⟩ := evalFrom_true_cons x es index c
    rw [hcons] at h
    cases h
    obtain ⟨hq, hI⟩ := hstep x List.mem_cons_self hc he
    intro o ho
    rcases List.mem_cons.1 ho with rfl | ho
    · exact hq
    · exact ih (fun y hy => hstep y (List.mem_cons_of_mem x hy)) hI (index + 1) hos o ho

/-- The eager evaluation of the first `k` expectations gives the outcomes of the first `k`
    steps of the lazy run, and leaves its context, when no panic escapes them. -/
theorem evalFrom_take_of_nextN (capture : Bool) (k : Nat) (es : List (Expectation C))
    (index : Nat) (ctx : C) {os : List Outcome}
    (h : (Run.nextN k ⟨es, index, ctx, capture⟩).1.mapM id = .ok os) :
    evalFrom capture (es.take k) index ctx =
      (.ok os, (Run.nextN k ⟨es, index, ctx, capture⟩).2.context) := by
  induction k generalizing es index ctx os with
  | zero =>
    obtain rfl : os = [] := by simpa [pure, Except.pure] using h.symm
    rfl
  | succ k ih =>
    cases es with
    | nil =>
      obtain rfl : os = [] := by simpa [pure, Except.pure] using h.symm
      rfl
    | cons e rest =>
      rw [Run.nextN_succ_cons, Prod.map_fst, List.mapM_cons] at h
      rw [Run.nextN_succ_cons, Prod.map_snd, id, List.take_succ_cons]
      rcases hev : e.evaluate index capture ctx with ⟨result, ctx'⟩
      rw [hev] at h
      dsimp only at h ⊢
      -- the first result is an outcome, and so are the rest
      cases result with
      | error p => simp [id, bind, Except.bind] at h
      | ok o =>
        cases hrest : (Run.nextN k ⟨rest, index + 1, ctx', capture⟩).1.mapM id with
        | error p => simp [hrest, id, bind, Except.bind] at h
        | ok os' =>
          simp only [hrest, id, bind, Except.bind, pure, Except.pure, Except.ok.injEq] at h
          subst h
          simp only [evalFrom, hev, ih rest _ _ hrest]

/-- `take k` gives the outcomes of the first `k` steps of `runAll`, and leaves its context,
    when no panic escapes them. -/
theorem take_eq_of_nextN (r : Registry C) (k : Nat) (ctx : C) {os : List Outcome}
    (h : ((r.runAll ctx).nextN k).1.mapM id = .ok os) :
    r.take k ctx = (.ok os, ((r.runAll ctx).nextN k).2.context) :=
  evalFrom_take_of_nextN r.capturePanics k r.expectations 0 ctx h

/-- A lazy run of a registry of `n` expectations gives one result per step, in order, and
    then ends: after `k` steps it has given `min k n` results and has as many left as it has
    not given; the `j`-th result is what the rules of evaluation give for the `j`-th
    expectation, from the context the producers of the well-formed expectations before it
    left; after `k` steps the context is what those among the first `k` made of the start,
    each run once. With panics captured, every result is an outcome. -/
theorem runAll_steps (r : Registry C) (ctx : C) (k : Nat) :
    ((r.runAll ctx).nextN k).1.length = min k r.size ∧
      ((r.runAll ctx).nextN k).2.len = r.size - ((r.runAll ctx).nextN k).1.length ∧
      (((r.runAll ctx).nextN k).2.next = none ↔ r.size ≤ k) ∧
      ((r.runAll ctx).nextN k).2.context = contextAfter r.expectations k ctx ∧
      (∀ j e, r.expectations[j]? = some e → j < k →
        ∃ result, ((r.runAll ctx).nextN k).1[j]? = some result ∧
          e.Yields j r.capturePanics (contextAfter r.expectations j ctx)
            (result, contextAfter r.expectations (j + 1) ctx)) ∧
      (r.capturePanics = true → ∀ result ∈ ((r.runAll ctx).nextN k).1, ∃ o, result = .ok o) := by
  have hstate : ((r.runAll ctx).nextN k).2 =
      ⟨r.expectations.drop k, min k r.size, contextAfter r.expectations k ctx,
        r.capturePanics⟩ :=
    (Run.nextN_state k 0 ctx r.capturePanics r.expectations).trans (by simp [size])
  have hlen : ((r.runAll ctx).nextN k).1.length = min k r.size :=
    Run.length_nextN k 0 ctx r.capturePanics r.expectations
  refine ⟨hlen, ?_, ?_, ?_, ?_, ?_⟩
  · rw [hstate, hlen]
    simp only [Run.len, List.length_drop, size]
    omega
  · rw [hstate, Run.next_eq_none_iff]
    simp only [Run.len, List.length_drop, size]
    omega
  · rw [hstate]
  · -- the `j`-th step evaluates `e` from the context after `j`, and leaves the one after `j + 1`
    intro j e he hj
    refine ⟨_, Run.getElem?_nextN k 0 ctx r.capturePanics he hj, ?_⟩
    rw [Nat.zero_add, contextAfter_succ he, ← Expectation.evaluate_context]
    exact Expectation.evaluate_yields e j _ _
  · intro hc result hr
    obtain ⟨es, capture⟩ := r
    subst hc
    exact Run.ok_of_mem_nextN k 0 ctx es hr

/-- An expectation whose producer reads a counter and counts up. -/
def tally : Expectation Nat := ⟨"tally", .int 1, fun c => (.value (.int c), c + 1)⟩

/-- The second of two tallies runs after the first has counted. -/
theorem runAll_tally_second :
    (⟨[tally, tally], true⟩ : Registry Nat).expectations[1]? = some tally ∧ 1 < 2 ∧
      ∃ result, (((⟨[tally, tally], true⟩ : Registry Nat).runAll 1).nextN 2).1[1]? =
          some result ∧
        tally.Yields 1 true (contextAfter [tally, tally] 1 1)
          (result, contextAfter [tally, tally] 2 1) :=
  ⟨rfl, by decide, (runAll_steps ⟨[tally, tally], true⟩ 1 2).2.2.2.2.1 1 tally rfl (by decide)⟩

end Registry

end ReflectCheck
