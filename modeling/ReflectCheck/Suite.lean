import ReflectCheck.Fixture.Load
import ReflectCheck.Files.Tree
import ReflectCheck.Bounded

/-!
# Suites of fixture files

A suite runs fixture files each on its own task, at most `jobs` at a time
(`Bounded.runBounded`): a file that cannot be read or loaded counts as one load error and
affects no other file. The report of a file holds its path, its fixture's name when it
loaded, its counts, and either the records of its examples or the load error's message.
The suite's report lists the files in the order given, with the counts of all of them
merged.

The text report shows each file as a section (`== path (name)`, the records' lines and
the counts, or `LOAD  ` and the error) followed by a blank line, then the line
`total: ` with the merged counts. The JSON report is pretty-printed with the fields in
the order they are described here.
-/

namespace ReflectCheck

/-- What happened to one fixture file. -/
inductive FileOutcome where
  /-- The file loaded and every example was evaluated, giving these records. -/
  | evaluated (records : List Record)
  /-- The file could not be loaded, for this reason. -/
  | loadFailed (error : String)
  deriving DecidableEq, Inhabited

/-- The report of one fixture file. -/
structure FileReport where
  /-- The path of the file. -/
  path : String
  /-- The fixture's name, when the file loaded. -/
  name : Option String
  /-- The counts for this file. -/
  summary : Summary
  /-- What happened. -/
  outcome : FileOutcome
  deriving DecidableEq, Inhabited

namespace FileReport

/-- The report of a file that could not be loaded. -/
def loadFailed (path error : String) : FileReport :=
  ⟨path, none, { loadErrors := 1 }, .loadFailed error⟩

/-- Read, load and evaluate the fixture file at a path of a file tree. -/
def run (t : Files.Tree) (path : String) : FileReport :=
  match t.read path with
  | .error reason => loadFailed path (Fixture.LoadError.io path reason).message
  | .ok content =>
    match Fixture.LoadedFixture.fromToml content (some path) with
    | .error e => loadFailed path e.message
    | .ok f =>
      let (r, f') := f.run
      ⟨path, some f.name, r.summary, .evaluated (r.records f'.inspect)⟩

/-- Whether the file loaded and every example passed. -/
def passed (r : FileReport) : Bool := r.summary.allPassed

/-- The section of the text report for this file. -/
def renderText (r : FileReport) : String :=
  let head := match r.name with
    | some n => "== " ++ r.path ++ " (" ++ n ++ ")\n"
    | none => "== " ++ r.path ++ "\n"
  match r.outcome with
  | .evaluated records =>
    head ++ String.join (records.map (·.line ++ "\n")) ++ r.summary.line ++ "\n"
  | .loadFailed error => head ++ "LOAD  " ++ error ++ "\n"

/-- The JSON form of the report, fields in order. -/
def toJson (r : FileReport) : Json :=
  let outcome : List (String × Json) := match r.outcome with
    | .evaluated records => [("status", .str "evaluated"), ("outcomes", .arr (records.map Record.toJson))]
    | .loadFailed error => [("status", .str "load_failed"), ("error", .str error)]
  .obj ([("path", .str r.path), ("name", match r.name with | some n => .str n | none => .null),
    ("summary", r.summary.toJson)] ++ outcome)

/-- A file report read back from its JSON form. -/
def ofJson? : Json → Option FileReport
  | .obj ms => do
    let path ← match Record.member? ms "path" with
      | some (.str p) => some p
      | _ => none
    let name ← match Record.member? ms "name" with
      | some (.str n) => some (some n)
      | some .null => some none
      | _ => none
    let summary ← (Record.member? ms "summary").bind Summary.ofJson?
    let outcome ← match Record.member? ms "status" with
      | some (.str "evaluated") =>
        match Record.member? ms "outcomes" with
        | some (.arr items) => (items.mapM Record.ofJson?).map .evaluated
        | _ => none
      | some (.str "load_failed") =>
        match Record.member? ms "error" with
        | some (.str e) => some (.loadFailed e)
        | _ => none
      | _ => none
    pure ⟨path, name, summary, outcome⟩
  | _ => none

/-- The structural description of the report. -/
def shape (r : FileReport) : Text.Shape :=
  let outcome : Text.Shape := match r.outcome with
    | .evaluated records => .record "Evaluated" [("outcomes", .list (records.map Record.shape))] false
    | .loadFailed error => .record "LoadFailed" [("error", .text error)] false
  .record "FileReport" [("path", .text r.path), ("name", .option .text r.name),
    ("summary", r.summary.shape), ("outcome", outcome)] false

end FileReport

/-- The reports of the files of a suite and their merged counts. -/
structure SuiteReport where
  /-- The file reports, in the order the files were given. -/
  files : List FileReport
  /-- The counts of all files. -/
  summary : Summary
  deriving DecidableEq, Inhabited

namespace SuiteReport

/-- The suite report of file reports. -/
def ofFiles (files : List FileReport) : SuiteReport :=
  ⟨files, files.foldl (fun s f => s.merge f.summary) {}⟩

/-- Whether every file loaded and every example passed. -/
def passed (r : SuiteReport) : Bool := r.summary.allPassed

/-- The text report. -/
def renderText (r : SuiteReport) : String :=
  String.join (r.files.map (·.renderText ++ "\n")) ++ "total: " ++ r.summary.line ++ "\n"

/-- The JSON form of the report, fields in order. -/
def toJson (r : SuiteReport) : Json :=
  .obj [("files", .arr (r.files.map FileReport.toJson)), ("summary", r.summary.toJson)]

/-- The pretty-printed JSON report. -/
def renderJson (r : SuiteReport) : String := r.toJson.pretty

/-- A suite report read back from its JSON form. -/
def ofJson? : Json → Option SuiteReport
  | .obj ms => do
    let files ← match Record.member? ms "files" with
      | some (.arr items) => items.mapM FileReport.ofJson?
      | _ => none
    let summary ← (Record.member? ms "summary").bind Summary.ofJson?
    pure ⟨files, summary⟩
  | _ => none

/-- Whether the JSON report reads back as the same report. -/
def roundTrip (r : SuiteReport) : Bool :=
  ((Json.read r.renderJson).bind ofJson?) == some r

/-- The structural description of the report. -/
def shape (r : SuiteReport) : Text.Shape :=
  .record "SuiteReport" [("files", .list (r.files.map FileReport.shape)),
    ("summary", r.summary.shape)] false

end SuiteReport

/-- Run the fixture files at paths of a file tree, each on its own task, at most `jobs` at a
    time (at least one), the tasks finishing as the schedule says. A file whose task left no
    result is reported as cancelled. -/
def runSuiteWith (t : Files.Tree) (paths : List String) (jobs : Nat) (pick : Nat → Nat) :
    SuiteReport :=
  let jobs := max jobs 1
  let slots := (Bounded.runBounded jobs (FileReport.run t) pick paths).1
  SuiteReport.ofFiles ((slots.zip paths).map fun (slot, path) =>
    slot.getD (FileReport.loadFailed path "evaluation task was cancelled"))

/-- How many fixture files a suite evaluates at the same time, unless told otherwise. -/
def defaultJobs : Nat := 4

/-- Run the fixture files at paths of a file tree with the default number of tasks, the
    oldest running task finishing first. -/
def runSuite (t : Files.Tree) (paths : List String) : SuiteReport :=
  runSuiteWith t paths defaultJobs fun _ => 0

end ReflectCheck
