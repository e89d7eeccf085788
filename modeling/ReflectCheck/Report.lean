import ReflectCheck.Summary
import ReflectCheck.Json.Read
import ReflectCheck.Text.Blank

/-!
# Reports of runs

A run of a registry gives its outcomes and their summary. For reports each outcome
becomes a record: the values in it are inspected in the context of the run, and a fault
becomes its message. A record is one line of text: the status label padded to five
columns, the description (`<missing description>` when it is blank), two spaces, and
the expected value followed by the actual value or the error.

The text of a run is one line per record and then the summary line. Its JSON form is an
object with the records and the summary, every object with its keys in alphabetical
order.
-/

namespace ReflectCheck

/-- An outcome as reports show it. -/
structure Record where
  /-- The position of the expectation. -/
  index : Nat
  /-- Its description. -/
  description : String
  /-- How it ended. -/
  status : StatusKind
  /-- The comparison used, if a value was produced. -/
  comparison : Option Comparison
  /-- The expected value, inspected. -/
  expected : String
  /-- The produced value, inspected. -/
  actual : Option String
  /-- The message of the fault, if any. -/
  error : Option String
  deriving DecidableEq, Inhabited

namespace Record

/-- The record of an outcome, with values inspected by `inspect`. -/
def ofOutcome (inspect : Value → String) (o : Outcome) : Record :=
  ⟨o.index, o.description, o.status.kind, o.comparison, inspect o.expected,
    o.actual.map inspect, o.status.fault?.map Fault.message⟩

/-- Whether the record passed. -/
def passed (r : Record) : Bool := r.status == .pass

/-- `s` padded with spaces on the right to `width` characters. -/
def padRight (s : String) (width : Nat) : String :=
  s ++ String.ofList (List.replicate (width - s.length) ' ')

/-- The report line of a record. -/
def line (r : Record) : String :=
  let description := if Text.isBlankText r.description then "<missing description>" else r.description
  let head := padRight r.status.label 5 ++ " " ++ description ++ "  expected=" ++ r.expected
  match r.actual, r.error with
  | some actual, _ => head ++ " actual=" ++ actual
  | none, some error => head ++ " error=" ++ error
  | none, none => head

/-- The JSON form of a record, fields in declaration order. -/
def toJson (r : Record) : Json :=
  .obj [("index", .num r.index), ("description", .str r.description),
    ("status", .str r.status.name),
    ("comparison", match r.comparison with | some c => .str c.name | none => .null),
    ("expected", .str r.expected),
    ("actual", match r.actual with | some a => .str a | none => .null),
    ("error", match r.error with | some e => .str e | none => .null)]

/-- A status kind from its name in reports. -/
def statusOfName? (s : String) : Option StatusKind :=
  if s = "pass" then some .pass else if s = "fail" then some .fail
  else if s = "fixture_error" then some .fixtureError else none

/-- A comparison from its name in reports. -/
def comparisonOfName? (s : String) : Option Comparison :=
  if s = "identity" then some .identity else if s = "value" then some .value
  else if s = "kind_mismatch" then some .kindMismatch else none

/-- The member `k` of an object. -/
def member? (members : List (String × Json)) (k : String) : Option Json :=
  (members.find? (·.1 = k)).map (·.2)

/-- An optional string member: `null` or absent is none. -/
def optText? (members : List (String × Json)) (k : String) : Option (Option String) :=
  match member? members k with
  | none | some .null => some none
  | some (.str s) => some (some s)
  | some _ => none

/-- A record read back from its JSON form. -/
def ofJson? : Json → Option Record
  | .obj ms => do
    let index ← match member? ms "index" with
      | some (.num n) => if n ≥ 0 then some n.toNat else none
      | _ => none
    let description ← match member? ms "description" with
      | some (.str s) => some s
      | _ => none
    let status ← match member? ms "status" with
      | some (.str s) => statusOfName? s
      | _ => none
    let comparison ← match member? ms "comparison" with
      | none | some .null => some none
      | some (.str s) => (comparisonOfName? s).map some
      | _ => none
    let expected ← match member? ms "expected" with
      | some (.str s) => some s
      | _ => none
    pure ⟨index, description, status, comparison, expected, ← optText? ms "actual",
      ← optText? ms "error"⟩
  | _ => none

end Record

namespace Summary

/-- The JSON form of the counts, fields in declaration order. -/
def toJson (s : Summary) : Json :=
  .obj [("total", .num s.total), ("passed", .num s.passed), ("failed", .num s.failed),
    ("fixture_errors", .num s.fixtureErrors), ("load_errors", .num s.loadErrors)]

/-- A summary read back from its JSON form. -/
def ofJson? : Json → Option Summary
  | .obj ms => do
    let count (k : String) : Option Nat := match Record.member? ms k with
      | some (.num n) => if n ≥ 0 then some n.toNat else none
      | _ => none
    pure ⟨← count "total", ← count "passed", ← count "failed", ← count "fixture_errors",
      ← count "load_errors"⟩
  | _ => none

/-- Whether the summary reads back from its one-line JSON text as itself. -/
def roundTrip (s : Summary) : Bool :=
  ((Json.read s.toJson.compact).bind ofJson?) == some s

end Summary

/-- The outcomes of a run and their summary. -/
structure RunReport where
  /-- The outcomes, in order. -/
  outcomes : List Outcome
  /-- Their counts. -/
  summary : Summary
  deriving Inhabited

namespace RunReport

/-- The report of a list of outcomes. -/
def ofOutcomes (os : List Outcome) : RunReport := ⟨os, Summary.ofOutcomes os⟩

/-- The records of the outcomes. -/
def records (r : RunReport) (inspect : Value → String) : List Record :=
  r.outcomes.map (Record.ofOutcome inspect)

/-- One line per record, then the summary line, each ended by a line feed. -/
def renderText (r : RunReport) (inspect : Value → String) : String :=
  String.join ((r.records inspect).map (·.line ++ "\n")) ++ r.summary.line ++ "\n"

/-- Whether the records read back from their one-line JSON text as themselves. -/
def recordsRoundTrip (r : RunReport) (inspect : Value → String) : Bool :=
  let rs := r.records inspect
  let back : Option (List Record) := match Json.read (Json.arr (rs.map Record.toJson)).compact with
    | some (.arr items) => items.mapM Record.ofJson?
    | _ => none
  back == some rs

/-- The records and the summary as pretty-printed JSON with sorted keys. -/
def renderJson (r : RunReport) (inspect : Value → String) : String :=
  (Json.obj [("outcomes", .arr ((r.records inspect).map Record.toJson)),
    ("summary", r.summary.toJson)]).sortKeys.pretty

end RunReport

end ReflectCheck
