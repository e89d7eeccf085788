import ReflectCheck.Text.Structural
import ReflectCheck.Namespace
import ReflectCheck.Registry
import ReflectCheck.Report

/-!
# Structural descriptions of the core values

How handles, values, comparisons, faults, outcomes, object spaces, namespaces,
registries and report records are shown in structural descriptions (`Text.Shape`).
-/

namespace ReflectCheck

open Text

/-- A handle: `ObjectId(n)`. -/
def Handle.shape (h : Handle) : Shape := .tuple "ObjectId" [.nat h.slot]

/-- A value, tagged by its kind. -/
def Value.shape : Value → Shape
  | .nil => .atom "Nil"
  | .bool b => .tuple "Bool" [.bool b]
  | .int i => .tuple "Int" [.atom (toString i)]
  | .str s => .tuple "Str" [.text s]
  | .object h => .tuple "Object" [h.shape]

/-- A comparison, by its tag. -/
def Comparison.shape : Comparison → Shape
  | .identity => .atom "Identity"
  | .value => .atom "Value"
  | .kindMismatch => .atom "KindMismatch"

/-- A fault, by its tag and its fields. -/
def Fault.shape : Fault → Shape
  | .missingDescription => .atom "MissingDescription"
  | .unknownEntity name => .tuple "UnknownEntity" [.text name]
  | .unsupported method receiver =>
    .record "UnsupportedOperation" [("method", .text method), ("receiver", .text receiver)] false
  | .typeMismatch expected found =>
    .record "TypeMismatch" [("expected", .text expected), ("found", .text found)] false
  | .unparsable expression reason =>
    .record "Parse" [("expression", .text expression), ("reason", .text reason)] false
  | .panicked message => .tuple "Panicked" [.text message]
  | .dangling slot => .tuple "DanglingObject" [.nat slot]
  | .exhausted => .atom "SpaceExhausted"

/-- A status, with the fault of a fixture error. -/
def Status.shape : Status → Shape
  | .pass => .atom "Pass"
  | .fail => .atom "Fail"
  | .fixtureError f => .tuple "FixtureError" [f.shape]

/-- A status kind, by its tag. -/
def StatusKind.shape : StatusKind → Shape
  | .pass => .atom "Pass"
  | .fail => .atom "Fail"
  | .fixtureError => .atom "FixtureError"

/-- An outcome, with all its fields. -/
def Outcome.shape (o : Outcome) : Shape :=
  .record "Outcome" [("index", .nat o.index), ("description", .text o.description),
    ("status", o.status.shape), ("comparison", Shape.option Comparison.shape o.comparison),
    ("expected", o.expected.shape), ("actual", Shape.option Value.shape o.actual)] false

/-- A summary, with its five counts. -/
def Summary.shape (s : Summary) : Shape :=
  .record "Summary" [("total", .nat s.total), ("passed", .nat s.passed),
    ("failed", .nat s.failed), ("fixture_errors", .nat s.fixtureErrors),
    ("load_errors", .nat s.loadErrors)] false

/-- A report record, with all its fields. -/
def Record.shape (r : Record) : Shape :=
  .record "OutcomeRecord" [("index", .nat r.index), ("description", .text r.description),
    ("status", r.status.shape), ("comparison", Shape.option Comparison.shape r.comparison),
    ("expected", .text r.expected), ("actual", Shape.option Shape.text r.actual),
    ("error", Shape.option Shape.text r.error)] false

/-- The kind of an entity, with its link. -/
def Kind.shape : Kind → Shape
  | .cls superclass => .record "Class" [("superclass", Shape.option Handle.shape superclass)] false
  | .inst c => .record "Instance" [("class", c.shape)] false
  | .single a => .record "Singleton" [("attached", a.shape)] false

/-- An entity, with its kind, name and singleton link. -/
def Entity.shape (e : Entity) : Shape :=
  .record "Entity" [("kind", e.kind.shape), ("name", Shape.option Shape.text e.name),
    ("singleton", Shape.option Handle.shape e.singleton)] false

/-- The handles of the built-in classes that have a role of their own. -/
def Space.builtinsShape : Shape :=
  .record "Builtins" [("basic_object", Handle.basicObject.shape), ("object", Handle.object.shape),
    ("class", Handle.classClass.shape), ("nil_class", Handle.nilClass.shape),
    ("true_class", Handle.trueClass.shape), ("false_class", Handle.falseClass.shape),
    ("integer", Handle.integer.shape), ("string", Handle.string.shape)] false

/-- An object space: its entities, its built-in handles and how many built-ins it has. -/
def Space.shape (s : Space) : Shape :=
  .record "ObjectSpace" [("entities", .list (s.entities.toList.map Entity.shape)),
    ("builtins", Space.builtinsShape), ("builtin_count", .nat Space.builtinCount)] false

/-- A namespace: its module and its bindings in name order. -/
def Namespace.shape (ns : Namespace) : Shape :=
  .record "Namespace" [("module", Shape.option Shape.text ns.module),
    ("constants", .map (ns.constants.map fun (n, v) => (.text n, v.shape)))] false

/-- A scope: its space and its namespace. -/
def Scope.shape (sc : Scope) : Shape :=
  .record "Scope" [("space", sc.space.shape), ("namespace", sc.names.shape)] false

/-- An expectation: description and expected value; the producer is left out. -/
def Expectation.shape {C : Type} (e : Expectation C) : Shape :=
  .record "Expectation" [("description", .text e.description), ("expected", e.expected.shape)] true

/-- A registry: its expectations and whether it captures panics. -/
def Registry.shape {C : Type} (r : Registry C) : Shape :=
  .record "ExpectationRegistry" [("expectations", .list (r.expectations.map Expectation.shape)),
    ("catch_panics", .bool r.capturePanics)] false

end ReflectCheck
