import ReflectCheck.Suite

/-!
# Verification results

A verification result condenses suite reports into pass or fail with messages: each
example of a loaded file gives a success or a failure `path: record line`, and a file
that did not load gives the failure `path: error`. A result has passed while it has no
failure; merging keeps the messages of both, in order.
-/

namespace ReflectCheck

/-- Whether verification passed, with the messages of failures and successes. -/
structure Verification where
  /-- Whether no failure was added. -/
  passed : Bool
  /-- The failure messages, in order. -/
  failures : List String
  /-- The success messages, in order. -/
  successes : List String
  deriving DecidableEq, Inhabited

namespace Verification

/-- A result with no messages, passed. -/
def new : Verification := ⟨true, [], []⟩

/-- Add a success message. -/
def addSuccess (v : Verification) (message : String) : Verification :=
  { v with successes := v.successes ++ [message] }

/-- Add a failure message; the result no longer passes. -/
def addFailure (v : Verification) (message : String) : Verification :=
  { v with passed := false, failures := v.failures ++ [message] }

/-- Both results' messages; passed when both passed. -/
def merge (v w : Verification) : Verification :=
  ⟨v.passed && w.passed, v.failures ++ w.failures, v.successes ++ w.successes⟩

/-- The result of one file's report. -/
def ofFile (r : FileReport) : Verification :=
  match r.outcome with
  | .evaluated records =>
    records.foldl (fun v rec =>
      let message := r.path ++ ": " ++ rec.line
      if rec.passed then v.addSuccess message else v.addFailure message) new
  | .loadFailed error => new.addFailure (r.path ++ ": " ++ error)

/-- The result of a suite's report: its files' results merged. -/
def ofSuite (r : SuiteReport) : Verification :=
  r.files.foldl (fun v f => v.merge (ofFile f)) new

/-- The structural description of the result. -/
def shape (v : Verification) : Text.Shape :=
  .record "VerificationResult" [("passed", .bool v.passed),
    ("failures", .list (v.failures.map .text)), ("successes", .list (v.successes.map .text))] false

end Verification

end ReflectCheck
