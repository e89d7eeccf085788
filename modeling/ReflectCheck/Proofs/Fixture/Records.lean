import ReflectCheck.Proofs.Fixture.Names

/-!
# Records bear out their status

A report shows each outcome as a record, its values inspected in the space of the fixture.
A reader of a report compares the expected text with the actual one; this module proves
that the comparison agrees with the status, for every fixture that loads and every run of
its examples.

An outcome is judged (`Outcome.Judged`) when its values are primitives or entities of the
space, a pass produced the expected value and a fail another one. Each example's outcome is
judged in the space its evaluation leaves (`Fixture.evaluate_judged`), and so is every
outcome of a run, in the space the run leaves and in every space grown from it
(`Fixture.Evaluation.perform_judged`). A record of a judged outcome bears out its status
(`Record.Consistent`) as soon as inspection tells the values of the space apart
(`Outcome.Judged.consistent`). Inspection does, in the space of a loaded fixture at every
point of its runs, which is well named (`Fixture.LoadedFixture.evaluateAll_wellNamed`) and
well formed (`Space.inspect_injective`).
-/

namespace ReflectCheck

namespace Status

@[simp]
theorem kind_eq_pass (s : Status) : s.kind = .pass ↔ s = .pass := by
  cases s <;> simp [kind]

@[simp]
theorem kind_eq_fail (s : Status) : s.kind = .fail ↔ s = .fail := by
  cases s <;> simp [kind]

end Status

/-- A record whose texts bear out its status: a pass shows the expected text as the actual
    one, and a fail shows an actual text other than the expected one. -/
structure Record.Consistent (r : Record) : Prop where
  pass : r.status = .pass → r.actual = some r.expected
  fail : r.status = .fail → ∃ a, r.actual = some a ∧ a ≠ r.expected

namespace Outcome

/-- An outcome judged in the space `s`: its values are primitives or entities of `s`, a
    pass produced the expected value and a fail another one. -/
structure Judged (s : Space) (o : Outcome) : Prop where
  expected : s.LiveValue o.expected
  actual : ∀ a, o.actual = some a → s.LiveValue a
  pass : o.status = .pass → o.actual = some o.expected
  fail : o.status = .fail → ∃ a, o.actual = some a ∧ a ≠ o.expected

theorem Judged.mono {s s' : Space} {o : Outcome} (hj : o.Judged s) (hle : s.size ≤ s'.size) :
    o.Judged s' :=
  ⟨hj.expected.mono hle, fun a ha => (hj.actual a ha).mono hle, hj.pass, hj.fail⟩

/-- An outcome that produced the value `a` of the space, and passes exactly when `a` is the
    expected one. -/
theorem Judged.of_value {s : Space} {o : Outcome} {a : Value} (he : s.LiveValue o.expected)
    (ha : s.LiveValue a) (hact : o.actual = some a)
    (hst : o.status = if o.expected = a then .pass else .fail) : o.Judged s where
  expected := he
  actual b hb := by
    rw [hact, Option.some_inj] at hb
    exact hb ▸ ha
  pass hp := by
    by_cases hea : o.expected = a
    · rw [hact, hea]
    · simp [hst, hea] at hp
  fail hf := by
    by_cases hea : o.expected = a
    · simp [hst, hea] at hf
    · exact ⟨a, hact, Ne.symm hea⟩

/-- An outcome that ended in a fault, and so neither passed nor failed. -/
theorem Judged.of_fixtureError {s : Space} {o : Outcome} {f : Fault}
    (he : s.LiveValue o.expected) (hst : o.status = .fixtureError f) (hact : o.actual = none) :
    o.Judged s where
  expected := he
  actual a ha := by simp [hact] at ha
  pass hp := by simp [hst] at hp
  fail hf := by simp [hst] at hf

/-- The record of an outcome judged in a space bears out its status, when its values are
    inspected by a function that tells the values of the space apart. -/
theorem Judged.consistent {s : Space} {o : Outcome} (hj : o.Judged s) {inspect : Value → String}
    (hinj : ∀ v w, s.LiveValue v → s.LiveValue w → inspect v = inspect w → v = w) :
    (Record.ofOutcome inspect o).Consistent where
  pass hp := by
    have hpass : o.status = .pass := (Status.kind_eq_pass o.status).1 hp
    simp [Record.ofOutcome, hj.pass hpass]
  fail hf := by
    obtain ⟨a, ha, hne⟩ := hj.fail ((Status.kind_eq_fail o.status).1 hf)
    refine ⟨inspect a, by simp [Record.ofOutcome, ha], fun heq => hne ?_⟩
    -- equal texts would make the produced value the expected one
    exact hinj a o.expected (hj.actual a ha) hj.expected heq

end Outcome

namespace Fixture

open Scope

/-- The producer of an example, in a sound scope, answers with a primitive or an entity of
    the space it leaves. -/
theorem producerOf_live {sc sc' : Scope} (hS : sc.Sound) {d : String} {v : Value}
    (hp : producerOf d sc = (.value v, sc')) : sc'.space.LiveValue v := by
  rcases he : Expr.parse d with f | e
  · rw [producerOf_of_parse_error he] at hp
    obtain ⟨⟩ := hp
  · rw [producerOf_of_parse he] at hp
    rcases hr : (e.eval sc.names).run sc.space with ⟨w, s⟩ | ⟨f, s⟩ <;> rw [hr] at hp
    · obtain ⟨⟩ := hp
      exact Expr.eval_live hS.wellFormed (hS.start he) hr
    · obtain ⟨⟩ := hp

/-- The outcome of an example, evaluated in a sound scope whose space holds its expected
    value, is judged in the space the evaluation leaves. -/
theorem evaluate_judged {x : Expectation Scope} (hx : x.producer = producerOf x.description)
    {sc sc' : Scope} (hS : sc.Sound) (he : sc.space.LiveValue x.expected) (index : Nat)
    {o : Outcome} (hev : x.evaluate index true sc = (.ok o, sc')) : o.Judged sc'.space := by
  have hy := x.evaluate_yields index true sc
  have hm := moves_evaluate hx hS index true
  rw [hev] at hy hm
  -- the expected value stays in the space the producer grows
  have he' := he.mono hm.grows.size_le
  cases hy with
  | blank _ => exact .of_fixtureError he' rfl rfl
  | value _ hp =>
    rw [hx] at hp
    exact .of_value he' (producerOf_live hS hp) rfl rfl
  | fault _ _ => exact .of_fixtureError he' rfl rfl
  | captured _ _ _ => exact .of_fixtureError he' rfl rfl

/-- The outcomes of examples evaluated one after the other, from a sound scope whose space
    holds their expected values, are judged in the space the last one leaves. -/
theorem evalFrom_judged {es : List (Expectation Scope)} {sc : Scope}
    (hes : ∀ x ∈ es, x.producer = producerOf x.description ∧ sc.space.LiveValue x.expected)
    (hS : sc.Sound) (index : Nat) {os : List Outcome}
    (h : (Registry.evalFrom true es index sc).1 = .ok os) :
    ∀ o ∈ os, o.Judged (Registry.evalFrom true es index sc).2.space :=
  evalFrom_forall (fun hj hle => hj.mono hle) (fun x hx => (hes x hx).1)
    (fun x hx _ _ index _ hm hev =>
      evaluate_judged (hes x hx).1 hm.sound ((hes x hx).2.mono hm.grows.size_le) index hev)
    (.refl hS) index h

/-- Every outcome of an evaluation of a sound fixture is judged in the space it leaves. -/
theorem Evaluation.perform_judged {f : LoadedFixture} (hf : f.Sound) (ev : Evaluation) :
    ∀ o ∈ (ev.perform f).1, o.Judged (ev.perform f).2.scope.space := by
  obtain ⟨os, sc, hr, hp, -⟩ := ev.perform_sound hf
  have hj := evalFrom_judged (fun x hx => hf.examples x (List.mem_of_mem_take hx)) hf.sound 0
    (by rw [hr])
  rw [hr] at hj
  rw [hp]
  exact hj

namespace LoadedFixture

theorem evaluateAll_append_cons (f : LoadedFixture) (before : List Evaluation)
    (ev : Evaluation) (after : List Evaluation) :
    f.evaluateAll (before ++ ev :: after) =
      (ev.perform (f.evaluateAll before)).2.evaluateAll after := by
  simp [evaluateAll, List.foldl_append]

end LoadedFixture

open LoadedFixture in
/-- Inspection in a loaded fixture tells values apart, and so its reports bear out their
    statuses. At every point of every sequence of evaluations of a fixture that loads,
    distinct primitives and entities of its space are shown as distinct texts. So the record
    of every outcome of every evaluation, its values inspected when that evaluation ends or at
    any later point, shows the expected text as the actual one when it passes, and an actual
    text other than the expected one when it fails. -/
theorem inspect_tells_values_apart {text : String} {path : Option String} {f : LoadedFixture}
    (hf : fromToml text path = .ok f) :
    (∀ evs v w, (f.evaluateAll evs).scope.space.LiveValue v →
      (f.evaluateAll evs).scope.space.LiveValue w →
      (f.evaluateAll evs).inspect v = (f.evaluateAll evs).inspect w → v = w) ∧
    ∀ before ev after, ∀ o ∈ (ev.perform (f.evaluateAll before)).1,
      (Record.ofOutcome (f.evaluateAll (before ++ ev :: after)).inspect o).Consistent := by
  have hS := fromToml_sound hf
  -- the space at every point is well formed and well named
  have hinj : ∀ evs v w, (f.evaluateAll evs).scope.space.LiveValue v →
      (f.evaluateAll evs).scope.space.LiveValue w →
      (f.evaluateAll evs).inspect v = (f.evaluateAll evs).inspect w → v = w :=
    fun evs _ _ hv hw heq => Space.inspect_injective (evaluateAll_sound hS evs).1.sound.wellFormed
      (evaluateAll_wellNamed hf evs) hv hw heq
  refine ⟨hinj, fun before ev after o ho => ?_⟩
  obtain ⟨hSb, -, -⟩ := evaluateAll_sound hS before
  have hj := Evaluation.perform_judged hSb ev o ho
  -- later evaluations only grow the space the outcome is judged in
  have hle : (ev.perform (f.evaluateAll before)).2.scope.space.size ≤
      (f.evaluateAll (before ++ ev :: after)).scope.space.size := by
    rw [evaluateAll_append_cons]
    exact (evaluateAll_sound (evaluateAll_sound hSb [ev]).1 after).2.2.grows.size_le
  exact (hj.mono hle).consistent (hinj _)

/-- A fixture in the module `Zoo` whose examples pass on a named class and fail on a fresh
    instance and on a singleton class. -/
def recordsFixture : String :=
  "name = \"records\"\nmodule = \"Zoo\"\n\n[[entities]]\nkind = \"class\"\nname = \"Animal\"\n\n" ++
    "[[entities]]\nkind = \"instance\"\nname = \"Rex\"\nclass = \"Animal\"\n\n" ++
    "[[examples]]\ndescription = \"Rex.class\"\nexpected = \"Animal\"\n\n" ++
    "[[examples]]\ndescription = \"Animal.new\"\nexpected = \"Rex\"\n\n" ++
    "[[examples]]\ndescription = \"Rex.singleton_class\"\nexpected = \"Animal\"\n"

/-- The fixture loads, its run passes once and fails twice, and each of its records bears
    out its status. -/
theorem recordsFixture_records_consistent :
    ∃ f, LoadedFixture.fromToml recordsFixture none = .ok f ∧
      (Evaluation.all.perform f).1.map (·.status.kind) = [.pass, .fail, .fail] ∧
      ∀ o ∈ (Evaluation.all.perform f).1,
        (Record.ofOutcome (f.evaluateAll [.all]).inspect o).Consistent := by
  -- the text loads, and its run gives a pass and two fails
  have hrun : (match LoadedFixture.fromToml recordsFixture none with
      | .ok f => decide ((Evaluation.all.perform f).1.map (·.status.kind) = [.pass, .fail, .fail])
      | .error _ => false) = true := by decide +kernel
  cases hf : LoadedFixture.fromToml recordsFixture none with
  | error e =>
    rw [hf] at hrun
    exact absurd hrun Bool.false_ne_true
  | ok f =>
    rw [hf] at hrun
    exact ⟨f, rfl, of_decide_eq_true hrun, (inspect_tells_values_apart hf).2 [] .all []⟩

end Fixture

end ReflectCheck
