import Mathlib.Algebra.Group.InjSurj
import Mathlib.Algebra.Group.Prod
import Mathlib.Algebra.BigOperators.Group.List.Basic
import ReflectCheck.Proofs.Suite.Gate

/-!
# Counts add up

A summary is five counts, and merging two summaries adds them count by count. Summaries under
`merge` therefore form a commutative monoid whose zero is the empty summary
(`Summary.instAddCommMonoid`, carried over from `ℕ⁵` along the injective `Summary.counts`), and
the three folds that produce counts agree with it:

* counting outcomes turns concatenation into merging (`Summary.ofOutcomes_append`);
* the counts of a suite are the sum of the counts of its files
  (`SuiteReport.ofFiles_summary_eq_sum`);
* a summary assembled from counted outcomes, failed loads and merges (`Summary.Assembled`)
  keeps the counting invariant (`Summary.Balanced`): every outcome counted passed, failed or
  raised a fixture error, and a file that did not load counts as none of them.

`Summary.counts_merge_as_monoid` states all of it at once.
-/

namespace ReflectCheck

namespace Summary

/-! ### The monoid of counts -/

/-- The five counts of a summary, in order. -/
def counts (s : Summary) : ℕ × ℕ × ℕ × ℕ × ℕ :=
  (s.total, s.passed, s.failed, s.fixtureErrors, s.loadErrors)

theorem counts_injective : Function.Injective counts := by
  rintro ⟨a, b, c, d, e⟩ ⟨a', b', c', d', e'⟩ h
  simp only [counts, Prod.mk.injEq] at h
  obtain ⟨rfl, rfl, rfl, rfl, rfl⟩ := h
  rfl

instance : Zero Summary := ⟨{}⟩

instance : Add Summary := ⟨merge⟩

/-- The counts of `k` copies of a summary. -/
instance : SMul ℕ Summary :=
  ⟨fun k s => ⟨k * s.total, k * s.passed, k * s.failed, k * s.fixtureErrors, k * s.loadErrors⟩⟩

theorem add_def (a b : Summary) : a + b = a.merge b := rfl

/-- Summaries under `merge` form a commutative monoid: merging adds each count. -/
instance : AddCommMonoid Summary :=
  counts_injective.addCommMonoid counts rfl (fun _ _ => rfl) (fun _ _ => rfl)

/-- Counting outcomes turns concatenation into merging. -/
theorem ofOutcomes_append (xs ys : List Outcome) :
    ofOutcomes (xs ++ ys) = ofOutcomes xs + ofOutcomes ys := by
  rw [ofOutcomes_eq, ofOutcomes_eq, ofOutcomes_eq, List.map_append, add_def, merge_ofKinds]

/-! ### The counting invariant -/

/-- Every outcome counted passed, failed or raised a fixture error. -/
def Balanced (s : Summary) : Prop := s.total = s.passed + s.failed + s.fixtureErrors

theorem Balanced.merge {a b : Summary} (ha : a.Balanced) (hb : b.Balanced) :
    (a.merge b).Balanced := by
  unfold Balanced at ha hb ⊢
  simp only [Summary.merge]
  omega

/-- A status kind is one of three. -/
theorem length_eq_count_kinds (ks : List StatusKind) :
    ks.length = ks.count .pass + ks.count .fail + ks.count .fixtureError := by
  induction ks with
  | nil => rfl
  | cons k ks ih =>
    rw [List.length_cons, ih]
    cases k <;> simp <;> omega

theorem balanced_ofOutcomes (os : List Outcome) : (ofOutcomes os).Balanced := by
  rw [ofOutcomes_eq]
  exact length_eq_count_kinds _

/-- The summaries a run assembles: the counts of outcomes, the counts of a file that did not
    load, and merges of these. -/
inductive Assembled : Summary → Prop
  | outcomes (os : List Outcome) : Assembled (ofOutcomes os)
  | loadFailed (path error : String) : Assembled (FileReport.loadFailed path error).summary
  | merge {a b : Summary} : Assembled a → Assembled b → Assembled (a.merge b)

theorem Assembled.balanced {s : Summary} (hs : s.Assembled) : s.Balanced := by
  induction hs with
  | outcomes os => exact balanced_ofOutcomes os
  | loadFailed => rfl
  | merge _ _ ha hb => exact ha.merge hb

theorem Assembled.sum {ss : List Summary} (h : ∀ s ∈ ss, s.Assembled) : ss.sum.Assembled := by
  induction ss with
  | nil => exact .outcomes []
  | cons s ss ih =>
    rw [List.sum_cons]
    exact .merge (h s List.mem_cons_self) (ih fun t ht => h t (List.mem_cons_of_mem s ht))

end Summary

/-! ### Suites -/

namespace SuiteReport

theorem foldl_merge (files : List FileReport) (a : Summary) :
    files.foldl (fun s f => s.merge f.summary) a = a + (files.map (·.summary)).sum := by
  induction files generalizing a with
  | nil => exact (add_zero a).symm
  | cons f files ih =>
    rw [List.foldl_cons, ih, List.map_cons, List.sum_cons, ← add_assoc]
    rfl

/-- The counts of a suite are the sum of the counts of its files. -/
theorem ofFiles_summary_eq_sum (files : List FileReport) :
    (ofFiles files).summary = (files.map (·.summary)).sum :=
  (foldl_merge files 0).trans (zero_add _)

theorem assembled_ofFiles {files : List FileReport} (h : ∀ f ∈ files, f.summary.Assembled) :
    (ofFiles files).summary.Assembled := by
  rw [ofFiles_summary_eq_sum]
  refine Summary.Assembled.sum fun s hs => ?_
  obtain ⟨f, hf, rfl⟩ := List.mem_map.1 hs
  exact h f hf

end SuiteReport

namespace Summary

/-- Counting is a homomorphism into the commutative monoid of summaries under `merge`, and
    every summary assembled from counted outcomes, failed loads and merges, the counts of a
    suite among them, counts each outcome once as a pass, a failure or a fixture error. -/
theorem counts_merge_as_monoid :
    (∀ xs ys : List Outcome, ofOutcomes (xs ++ ys) = (ofOutcomes xs).merge (ofOutcomes ys)) ∧
    (∀ a b c : Summary, (a.merge b).merge c = a.merge (b.merge c)) ∧
    (∀ a b : Summary, a.merge b = b.merge a) ∧
    (∀ a : Summary, merge {} a = a ∧ a.merge {} = a) ∧
    (∀ s : Summary, s.Assembled → s.total = s.passed + s.failed + s.fixtureErrors) ∧
    ∀ files : List FileReport, (∀ f ∈ files, f.summary.Assembled) →
      (SuiteReport.ofFiles files).summary.Assembled :=
  ⟨ofOutcomes_append, add_assoc, add_comm, fun a => ⟨zero_add a, add_zero a⟩,
    fun _ hs => hs.balanced, fun _ h => SuiteReport.assembled_ofFiles h⟩

end Summary

end ReflectCheck
