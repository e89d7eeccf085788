import ReflectCheck.Proofs.Suite.Bounded
import ReflectCheck.Proofs.Fixture.Rerun
import ReflectCheck.Verification
import ReflectCheck.Command.Run

/-!
# The counts of a suite, its gate and its verification result agree

A suite report is condensed four times over: each file's counts come from the outcomes of
its run, the suite's counts merge the files' counts, a verification result folds the
records into successes and failures, and the exit status of `run` follows the gate. All
four say the same thing about every suite report the runner gives:

* `Summary.ofKinds`: counts are taken from the status kinds of the records alone, and a
  file that did not load counts as one load error (`FileReport.Tallied`);
* `runSuiteWith_summary`: the counts of a suite are those of all its records, and of the
  files that did not load;
* `Verification.ofSuite_counts`: a verification result has a success per passing record
  and a failure per other record and per file that did not load, and it has passed exactly
  while it has no failure (`Verification.Consistent`);
* `suiteReport_gate_agrees`: the gate passes exactly when the report passes, when its
  verification result passes, and when every file loaded and every record passed; it
  fails with the three counts; and `run` exits with status 0 exactly when the options are
  valid and the gate passes.
-/

namespace ReflectCheck

/-! ### Counting status kinds -/

namespace Summary

/-- The counts of a list of status kinds, with `loadErrors` files that did not load. -/
def ofKinds (ks : List StatusKind) (loadErrors : Nat) : Summary :=
  ⟨ks.length, ks.count .pass, ks.count .fail, ks.count .fixtureError, loadErrors⟩

@[simp] theorem ofKinds_nil (n : Nat) : ofKinds [] n = { loadErrors := n } := rfl

theorem merge_ofKinds (a b : List StatusKind) (m n : Nat) :
    (ofKinds a m).merge (ofKinds b n) = ofKinds (a ++ b) (m + n) := by
  simp only [merge, ofKinds, List.length_append, List.count_append]

theorem record_ofKinds (ks : List StatusKind) (o : Outcome) :
    (ofKinds ks 0).record o = ofKinds (ks ++ [o.status.kind]) 0 := by
  unfold record
  cases o.status <;> simp [ofKinds, Status.kind]

/-- The counts of outcomes are those of their status kinds. -/
theorem ofOutcomes_eq (os : List Outcome) : ofOutcomes os = ofKinds (os.map (·.status.kind)) 0 := by
  -- the fold counts the outcomes seen so far
  suffices h : ∀ ks, os.foldl record (ofKinds ks 0) = ofKinds (ks ++ os.map (·.status.kind)) 0 from
    h []
  induction os with
  | nil => simp
  | cons o os ih =>
    intro ks
    rw [List.foldl_cons, record_ofKinds, ih, List.map_cons, List.append_assoc, List.singleton_append]

/-- Counts pass the gate exactly when every kind is `pass` and no file failed to load. -/
theorem allPassed_ofKinds (ks : List StatusKind) (n : Nat) :
    (ofKinds ks n).allPassed = true ↔ (∀ k ∈ ks, k = .pass) ∧ n = 0 := by
  simp only [allPassed, ofKinds, Bool.and_eq_true, beq_iff_eq, List.count_eq_zero]
  constructor
  · rintro ⟨⟨hfail, hfe⟩, hn⟩
    refine ⟨fun k hk => ?_, hn⟩
    cases k with
    | pass => rfl
    | fail => exact absurd hk hfail
    | fixtureError => exact absurd hk hfe
  · rintro ⟨hks, hn⟩
    exact ⟨⟨fun h => absurd (hks _ h) (by decide), fun h => absurd (hks _ h) (by decide)⟩, hn⟩

theorem gate_eq_none_iff (s : Summary) : s.gate = none ↔ s.allPassed = true := by
  unfold gate
  split <;> simp_all

/-- A gate that fails carries the counts of failures, fixture errors and load errors. -/
theorem gate_eq_some {s : Summary} {g : GateFailure} (h : s.gate = some g) :
    g = ⟨s.failed, s.fixtureErrors, s.loadErrors⟩ := by
  unfold gate at h
  split at h
  · cases h
  · exact (Option.some.inj h).symm

end Summary

/-! ### File reports -/

namespace FileReport

/-- The records of a file that loaded; a file that did not load has none. -/
def records (r : FileReport) : List Record :=
  match r.outcome with
  | .evaluated rs => rs
  | .loadFailed _ => []

/-- Whether the file loaded. -/
def loaded (r : FileReport) : Bool :=
  match r.outcome with
  | .evaluated _ => true
  | .loadFailed _ => false

/-- The counts of a file report are those of its records, and one load error when the file
    did not load. -/
def Tallied (r : FileReport) : Prop :=
  r.summary = Summary.ofKinds (r.records.map (·.status)) (if r.loaded then 0 else 1)

theorem loadFailed_tallied (path error : String) : (loadFailed path error).Tallied := rfl

/-- A file that loaded is counted by the outcomes of its run, of which its records are
    made one for one. -/
theorem evaluated_tallied (path name : String) (r : RunReport) (inspect : Value → String)
    (hr : r = RunReport.ofOutcomes r.outcomes) :
    (⟨path, some name, r.summary, .evaluated (r.records inspect)⟩ : FileReport).Tallied := by
  rw [hr]
  simp only [Tallied, records, loaded, if_true, RunReport.ofOutcomes, RunReport.records,
    Summary.ofOutcomes_eq, List.map_map]
  rfl

/-- Every file report of a run is counted by its records. -/
theorem run_tallied (t : Files.Tree) (path : String) : (run t path).Tallied := by
  unfold run
  split
  · exact loadFailed_tallied _ _
  · split
    · exact loadFailed_tallied _ _
    · rename_i f _
      exact evaluated_tallied _ _ _ _ (Fixture.run_report f)

end FileReport

/-! ### Suite reports -/

namespace SuiteReport

/-- The records of every file that loaded, in order. -/
def records (r : SuiteReport) : List Record := r.files.flatMap FileReport.records

/-- The number of files that did not load. -/
def loadFailures (r : SuiteReport) : Nat := r.files.countP (!·.loaded)

theorem loadFailures_eq_zero_iff (r : SuiteReport) :
    r.loadFailures = 0 ↔ ∀ f ∈ r.files, f.loaded = true := by
  simp [loadFailures, List.countP_eq_zero]

/-- The merged counts of files counted by their records are the counts of all records. -/
theorem ofFiles_summary {files : List FileReport} (hf : ∀ f ∈ files, f.Tallied) :
    (ofFiles files).summary =
      Summary.ofKinds ((files.flatMap FileReport.records).map (·.status))
        (files.countP (!·.loaded)) := by
  -- the fold merges the counts of the files seen so far
  suffices h : ∀ ks n, files.foldl (fun s f => s.merge f.summary) (Summary.ofKinds ks n) =
      Summary.ofKinds (ks ++ (files.flatMap FileReport.records).map (·.status))
        (n + files.countP (!·.loaded)) by
    simpa [ofFiles] using h [] 0
  induction files with
  | nil => simp
  | cons f files ih =>
    intro ks n
    rw [List.foldl_cons, hf f List.mem_cons_self, Summary.merge_ofKinds,
      ih (fun g hg => hf g (List.mem_cons_of_mem f hg)), List.flatMap_cons, List.map_append,
      List.append_assoc, List.countP_cons]
    congr 1
    cases f.loaded <;> simp; omega

end SuiteReport

/-- The counts of a suite report are those of its records, and of its files that did not
    load, whatever the number of jobs and the schedule. -/
theorem runSuiteWith_summary (t : Files.Tree) (paths : List String) (jobs : Nat)
    (pick : Nat → Nat) :
    (runSuiteWith t paths jobs pick).summary =
      Summary.ofKinds ((runSuiteWith t paths jobs pick).records.map (·.status))
        (runSuiteWith t paths jobs pick).loadFailures := by
  rw [runSuiteWith_eq_ofFiles]
  apply SuiteReport.ofFiles_summary
  intro f hf
  obtain ⟨path, -, rfl⟩ := List.mem_map.1 hf
  exact FileReport.run_tallied t path

/-! ### Verification results -/

namespace Verification

/-- A result has passed exactly while it has no failure. -/
def Consistent (v : Verification) : Prop := v.passed = v.failures.isEmpty

theorem consistent_new : new.Consistent := rfl

theorem Consistent.addSuccess {v : Verification} (hv : v.Consistent) (m : String) :
    (v.addSuccess m).Consistent := hv

theorem consistent_addFailure (v : Verification) (m : String) : (v.addFailure m).Consistent := by
  simp [Consistent, addFailure]

theorem Consistent.merge {v w : Verification} (hv : v.Consistent) (hw : w.Consistent) :
    (v.merge w).Consistent := by
  simp only [Consistent, Verification.merge]
  rw [hv, hw]
  cases v.failures <;> rfl

/-- One step of the fold over a file's records. -/
def addRecord (path : String) (v : Verification) (rec : Record) : Verification :=
  let message := path ++ ": " ++ rec.line
  if rec.passed then v.addSuccess message else v.addFailure message

theorem Consistent.addRecord {v : Verification} (hv : v.Consistent) (path : String)
    (rec : Record) : (addRecord path v rec).Consistent := by
  unfold Verification.addRecord
  split
  · exact hv.addSuccess _
  · exact consistent_addFailure _ _

/-- Folding records adds a success for each passing record and a failure for each other,
    in order. -/
theorem foldl_addRecord (path : String) (rs : List Record) (v : Verification) :
    (rs.foldl (addRecord path) v).successes =
        v.successes ++ (rs.filter (·.passed)).map (fun rec => path ++ ": " ++ rec.line) ∧
      (rs.foldl (addRecord path) v).failures =
        v.failures ++ (rs.filter (!·.passed)).map (fun rec => path ++ ": " ++ rec.line) ∧
      (v.Consistent → (rs.foldl (addRecord path) v).Consistent) := by
  induction rs generalizing v with
  | nil => simp
  | cons rec rs ih =>
    obtain ⟨hs, hf, hc⟩ := ih (addRecord path v rec)
    rw [List.foldl_cons, hs, hf]
    refine ⟨?_, ?_, fun hv => hc (hv.addRecord path rec)⟩ <;> unfold addRecord <;>
      cases hp : rec.passed <;> simp [hp, Verification.addSuccess, Verification.addFailure]

theorem ofFile_evaluated {r : FileReport} {rs : List Record} (hr : r.outcome = .evaluated rs) :
    ofFile r = rs.foldl (addRecord r.path) new := by
  unfold ofFile
  rw [hr]
  rfl

theorem ofFile_loadFailed {r : FileReport} {e : String} (hr : r.outcome = .loadFailed e) :
    ofFile r = new.addFailure (r.path ++ ": " ++ e) := by
  unfold ofFile
  rw [hr]

/-- The result of a file: a success per passing record, a failure per other record, and a
    single failure when the file did not load. -/
theorem ofFile_counts (r : FileReport) :
    (ofFile r).successes.length = r.records.countP (·.passed) ∧
      (ofFile r).failures.length =
        r.records.countP (!·.passed) + (if r.loaded then 0 else 1) ∧
      (ofFile r).Consistent := by
  cases hr : r.outcome with
  | evaluated rs =>
    obtain ⟨hs, hf, hc⟩ := foldl_addRecord r.path rs new
    rw [ofFile_evaluated hr]
    refine ⟨?_, ?_, hc consistent_new⟩
    · rw [hs]
      simp [FileReport.records, hr, new, List.countP_eq_length_filter]
    · rw [hf]
      simp [FileReport.records, FileReport.loaded, hr, new, List.countP_eq_length_filter]
  | loadFailed e =>
    rw [ofFile_loadFailed hr]
    exact ⟨by simp [FileReport.records, hr, new, addFailure],
      by simp [FileReport.records, FileReport.loaded, hr, new, addFailure],
      consistent_addFailure _ _⟩

/-- The result of a suite: the messages of its files' results, all together. -/
theorem ofSuite_counts (r : SuiteReport) :
    (ofSuite r).successes.length = r.records.countP (·.passed) ∧
      (ofSuite r).failures.length = r.records.countP (!·.passed) + r.loadFailures ∧
      (ofSuite r).Consistent := by
  -- the fold merges the results of the files seen so far
  suffices h : ∀ (files : List FileReport) (v : Verification), v.Consistent →
      (files.foldl (fun v f => v.merge (ofFile f)) v).successes.length =
          v.successes.length + (files.flatMap FileReport.records).countP (·.passed) ∧
        (files.foldl (fun v f => v.merge (ofFile f)) v).failures.length =
          v.failures.length + (files.flatMap FileReport.records).countP (!·.passed) +
            files.countP (!·.loaded) ∧
        (files.foldl (fun v f => v.merge (ofFile f)) v).Consistent by
    obtain ⟨hs, hf, hc⟩ := h r.files new consistent_new
    exact ⟨by simpa [ofSuite, SuiteReport.records, new] using hs,
      by simpa [ofSuite, SuiteReport.records, SuiteReport.loadFailures, new] using hf, hc⟩
  intro files
  induction files with
  | nil => simp
  | cons f files ih =>
    intro v hv
    obtain ⟨hs, hf, hc⟩ := ofFile_counts f
    obtain ⟨hs', hf', hc'⟩ := ih (v.merge (ofFile f)) (hv.merge hc)
    refine ⟨?_, ?_, hc'⟩
    · rw [List.foldl_cons, hs']
      simp only [Verification.merge, List.length_append, hs, List.flatMap_cons,
        List.countP_append]
      omega
    · rw [List.foldl_cons, hf']
      simp only [Verification.merge, List.length_append, hf, List.flatMap_cons,
        List.countP_append, List.countP_cons]
      cases f.loaded <;> simp <;> omega

/-- A suite's result passes exactly when every file loaded and every record passed. -/
theorem ofSuite_passed_iff (r : SuiteReport) :
    (ofSuite r).passed = true ↔
      (∀ f ∈ r.files, f.loaded = true) ∧ ∀ rec ∈ r.records, rec.status = .pass := by
  obtain ⟨-, hf, hc⟩ := ofSuite_counts r
  rw [hc, List.isEmpty_iff, ← List.length_eq_zero_iff, hf, Nat.add_eq_zero_iff,
    SuiteReport.loadFailures_eq_zero_iff, and_comm]
  simp [List.countP_eq_zero, Record.passed]

end Verification

/-! ### The gate -/

theorem countP_passed (rs : List Record) :
    rs.countP (·.passed) = (rs.map (·.status)).count .pass := by
  rw [List.count, List.countP_map]
  rfl

theorem countP_not_passed (rs : List Record) :
    rs.countP (!·.passed) =
      (rs.map (·.status)).count .fail + (rs.map (·.status)).count .fixtureError := by
  induction rs with
  | nil => rfl
  | cons rec rs ih =>
    rw [List.countP_cons, ih, List.map_cons, List.count_cons, List.count_cons]
    cases h : rec.status <;> simp [Record.passed, h] <;> omega

theorem count_map_status (rs : List Record) (k : StatusKind) :
    (rs.map (·.status)).count k = rs.countP (·.status == k) := by
  simp [List.count, List.countP_map, Function.comp_def]

/-- A suite report counted by its records passes exactly when every file loaded and every
    record passed. -/
theorem SuiteReport.passed_iff_of_summary {r : SuiteReport}
    (hsum : r.summary = Summary.ofKinds (r.records.map (·.status)) r.loadFailures) :
    r.passed = true ↔
      (∀ f ∈ r.files, f.loaded = true) ∧ ∀ rec ∈ r.records, rec.status = .pass := by
  rw [SuiteReport.passed, hsum, Summary.allPassed_ofKinds, SuiteReport.loadFailures_eq_zero_iff]
  simp only [List.mem_map, forall_exists_index, and_imp, forall_apply_eq_imp_iff₂]
  exact and_comm

/-- `run` exits with status 0 exactly when its options are valid and the gate of the report
    it makes passes; invalid options end it before any report is made. -/
theorem Command.runFixtures_status_eq_zero (t : Files.Tree) (a : Command.RunArgs)
    (c : HarnessConfig) :
    (Command.runFixtures t a c).status = 0 ↔ (a.override c).validate = .ok () ∧
      (runSuiteWith t (Command.fixturesUnder t (Command.rootsOf a.paths (a.override c)))
        (a.override c).jobs fun _ => 0).summary.gate = none := by
  unfold Command.runFixtures
  dsimp only
  cases hv : (a.override c).validate with
  | error e => simp [Command.Exit.fatal]
  | ok u =>
    simp only [true_and, Summary.gate_eq_none_iff, SuiteReport.passed]
    split_ifs with hp <;> simp [hp]

/-- For every report the suite runner gives, with any paths, number of jobs and schedule:
    its counts are those of the records of the files that loaded, by status, and of the
    files that did not load; its gate passes exactly when it passes, when its verification
    result passes, and when every file loaded and every record passed, and otherwise fails
    with its counts of failures, fixture errors and load errors; its verification result has
    a success per passing outcome and a failure per failing outcome, fixture error and load
    error, and has passed exactly when it has no failure. And `run` exits with status 0
    exactly when its options are valid and the gate of the report it makes passes. -/
theorem suiteReport_gate_agrees (t : Files.Tree) (paths : List String) (jobs : Nat)
    (pick : Nat → Nat) :
    let r := runSuiteWith t paths jobs pick
    let v := Verification.ofSuite r
    (r.summary.total = r.records.length ∧
      r.summary.passed = r.records.countP (·.status == .pass) ∧
      r.summary.failed = r.records.countP (·.status == .fail) ∧
      r.summary.fixtureErrors = r.records.countP (·.status == .fixtureError) ∧
      r.summary.loadErrors = r.files.countP (!·.loaded)) ∧
    (r.summary.gate = none ↔ r.passed = true) ∧
    (r.passed = true ↔ v.passed = true) ∧
    (v.passed = true ↔ (∀ f ∈ r.files, f.loaded = true) ∧ ∀ rec ∈ r.records, rec.status = .pass) ∧
    (∀ g, r.summary.gate = some g →
      g = ⟨r.summary.failed, r.summary.fixtureErrors, r.summary.loadErrors⟩) ∧
    v.successes.length = r.summary.passed ∧
    v.failures.length = r.summary.failed + r.summary.fixtureErrors + r.summary.loadErrors ∧
    v.passed = v.failures.isEmpty ∧
    ∀ (a : Command.RunArgs) (c : HarnessConfig),
      (Command.runFixtures t a c).status = 0 ↔ (a.override c).validate = .ok () ∧
        (runSuiteWith t (Command.fixturesUnder t (Command.rootsOf a.paths (a.override c)))
          (a.override c).jobs fun _ => 0).summary.gate = none := by
  intro r v
  have hsum : r.summary = Summary.ofKinds (r.records.map (·.status)) r.loadFailures :=
    runSuiteWith_summary t paths jobs pick
  obtain ⟨hs, hf, hc⟩ := Verification.ofSuite_counts r
  -- the report and its result both pass exactly when every file loaded and every record passed
  have hpassed := SuiteReport.passed_iff_of_summary hsum
  have hv := Verification.ofSuite_passed_iff r
  refine ⟨⟨?_, ?_, ?_, ?_, ?_⟩, Summary.gate_eq_none_iff _, hpassed.trans hv.symm, hv,
    fun g hg => Summary.gate_eq_some hg, ?_, ?_, hc, fun a c => ?_⟩
  · rw [hsum]
    simp [Summary.ofKinds]
  · rw [hsum]
    exact count_map_status _ _
  · rw [hsum]
    exact count_map_status _ _
  · rw [hsum]
    exact count_map_status _ _
  · rw [hsum]
    rfl
  · rw [hs, hsum, countP_passed]
    rfl
  · rw [hf, hsum, countP_not_passed]
    rfl
  · exact Command.runFixtures_status_eq_zero t a c

end ReflectCheck
