import ReflectCheck.Outcome

/-!
# Summaries and the gate

A summary counts outcomes by status, and fixture files that failed to load. Summaries
of parts add up to the summary of the whole (`merge`). The gate passes when nothing
failed, no fixture errors occurred and every file loaded; otherwise it reports the three
counts.
-/

namespace ReflectCheck

/-- Counts of outcomes by status, and of files that did not load. -/
structure Summary where
  /-- All outcomes. -/
  total : Nat := 0
  /-- Outcomes that passed. -/
  passed : Nat := 0
  /-- Outcomes that failed. -/
  failed : Nat := 0
  /-- Outcomes with a fixture error. -/
  fixtureErrors : Nat := 0
  /-- Fixture files that failed to load. -/
  loadErrors : Nat := 0
  deriving DecidableEq, Inhabited

/-- Why the gate did not pass: the counts that must be zero. -/
structure GateFailure where
  /-- Outcomes that failed. -/
  failed : Nat
  /-- Outcomes with a fixture error. -/
  fixtureErrors : Nat
  /-- Fixture files that failed to load. -/
  loadErrors : Nat
  deriving DecidableEq, Inhabited

namespace GateFailure

/-- The text of a gate failure. -/
def message (g : GateFailure) : String :=
  "expectation gate failed: failed=" ++ toString g.failed ++ ", fixture_errors=" ++
    toString g.fixtureErrors ++ ", load_errors=" ++ toString g.loadErrors

end GateFailure

namespace Summary

/-- Count one more outcome. -/
def record (s : Summary) (o : Outcome) : Summary :=
  match o.status with
  | .pass => { s with total := s.total + 1, passed := s.passed + 1 }
  | .fail => { s with total := s.total + 1, failed := s.failed + 1 }
  | .fixtureError _ => { s with total := s.total + 1, fixtureErrors := s.fixtureErrors + 1 }

/-- The counts of a list of outcomes. -/
def ofOutcomes (os : List Outcome) : Summary := os.foldl record {}

/-- The counts of two parts together. -/
def merge (a b : Summary) : Summary :=
  ⟨a.total + b.total, a.passed + b.passed, a.failed + b.failed,
    a.fixtureErrors + b.fixtureErrors, a.loadErrors + b.loadErrors⟩

/-- Whether nothing failed, no fixture error occurred and every file loaded. -/
def allPassed (s : Summary) : Bool := s.failed == 0 && s.fixtureErrors == 0 && s.loadErrors == 0

/-- The gate: nothing when everything passed, the counts otherwise. -/
def gate (s : Summary) : Option GateFailure :=
  if s.allPassed then none else some ⟨s.failed, s.fixtureErrors, s.loadErrors⟩

/-- The one-line summary. -/
def line (s : Summary) : String :=
  toString s.passed ++ " passed, " ++ toString s.failed ++ " failed, " ++
    toString s.fixtureErrors ++ " fixture errors (" ++ toString s.total ++ " total)" ++
    (if s.loadErrors > 0 then ", " ++ toString s.loadErrors ++ " fixture files failed to load"
     else "")

end Summary

end ReflectCheck
