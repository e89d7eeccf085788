import ReflectCheck.Fault

/-!
# Outcomes of expectations

Evaluating an expectation gives an outcome: its position, description and expected
value, and a status. The status is `pass` or `fail` when the producer gave a value,
together with the comparison used and the value; it is a fixture error, with its fault,
when the producer gave none.
-/

namespace ReflectCheck

/-- How an expectation ended. -/
inductive Status where
  /-- The value is the expected one. -/
  | pass
  /-- The value differs from the expected one. -/
  | fail
  /-- No value could be produced. -/
  | fixtureError (f : Fault)
  deriving DecidableEq, Inhabited

/-- How an expectation ended, without the fault. -/
inductive StatusKind where
  | pass
  | fail
  | fixtureError
  deriving DecidableEq, Inhabited

namespace StatusKind

/-- The name of a status in reports. -/
def name : StatusKind → String
  | .pass => "pass"
  | .fail => "fail"
  | .fixtureError => "fixture_error"

/-- The label that starts a report line. -/
def label : StatusKind → String
  | .pass => "PASS"
  | .fail => "FAIL"
  | .fixtureError => "ERROR"

end StatusKind

namespace Status

/-- The kind of a status. -/
def kind : Status → StatusKind
  | .pass => .pass
  | .fail => .fail
  | .fixtureError _ => .fixtureError

/-- The fault of a fixture error. -/
def fault? : Status → Option Fault
  | .fixtureError f => some f
  | _ => none

end Status

/-- The result of evaluating one expectation. -/
structure Outcome where
  /-- The position of the expectation in its registry. -/
  index : Nat
  /-- The description of the expectation. -/
  description : String
  /-- How it ended. -/
  status : Status
  /-- The comparison used, when a value was produced. -/
  comparison : Option Comparison
  /-- The expected value. -/
  expected : Value
  /-- The produced value, if any. -/
  actual : Option Value
  deriving DecidableEq, Inhabited

namespace Outcome

/-- Whether the outcome passed. -/
def passed (o : Outcome) : Bool := o.status.kind == .pass

/-- Whether the outcome failed. -/
def failed (o : Outcome) : Bool := o.status.kind == .fail

end Outcome

end ReflectCheck
