import ReflectCheck.Fixture.Schema
import ReflectCheck.Fixture.LoadError
import ReflectCheck.Expr.Eval
import ReflectCheck.Report

/-!
# Loading fixtures

A fixture file is loaded into a scope and a registry. The scope starts from a fresh
object space and a namespace holding the built-in classes, inside the file's module if
it names one. Each entity is then declared in order:

* its name must be a constant identifier, and its name qualified with the module must
  not be bound yet;
* a class is defined with that qualified name, under the class its superclass expression
  gives (`Object` without one); the expression must give an object;
* an instance is made of the class its class expression gives, and the new object is
  named after the constant;
* the qualified name is bound to the new value.

Each example's expected value is evaluated at load time, in the scope as the examples
before left it; its description is parsed once, and the example's producer evaluates
it, or gives the parse fault when it does not parse.

The first thing that goes wrong stops the load with a `LoadError`.
-/

namespace ReflectCheck

namespace Scope

/-- Run a computation in the scope's object space. -/
def run {α : Type} (sc : Scope) (m : SpaceM α) : Except Fault α × Scope :=
  match m.run sc.space with
  | .ok a s => (.ok a, { sc with space := s })
  | .error f s => (.error f, { sc with space := s })

/-- Parse and evaluate an expression in the scope. -/
def evaluateText (sc : Scope) (text : String) : Except Fault Value × Scope :=
  match Expr.parse text with
  | .ok e => sc.evaluate e
  | .error f => (.error f, sc)

/-- Evaluate an expression that must give an object (a class). -/
def evaluateClass (sc : Scope) (text : String) : Except Fault Handle × Scope :=
  match sc.evaluateText text with
  | (.ok (.object h), sc') => (.ok h, sc')
  | (.ok v, sc') => (.error (.typeMismatch "class" (sc'.space.inspect v)), sc')
  | (.error f, sc') => (.error f, sc')

end Scope

namespace Fixture

/-- A loaded fixture: its entities declared in its scope, and its examples registered. -/
structure LoadedFixture where
  /-- The fixture's name. -/
  name : String
  /-- Its free-form description. -/
  description : String
  /-- The path it was loaded from, if any. -/
  path : Option String
  /-- The scope holding the declared entities. -/
  scope : Scope
  /-- The registered examples. -/
  registry : Registry Scope

/-- The value an entity declaration binds its constant to, declared under `qualified`. -/
def entityValue (qualified : String) (sc : Scope) : EntityDecl → Except Fault Value × Scope
  | .cls _ superclass =>
    let parent : Except Fault (Option Handle) × Scope := match superclass with
      | some text =>
        match sc.evaluateClass text with
        | (.ok h, sc') => (.ok (some h), sc')
        | (.error f, sc') => (.error f, sc')
      | none => (.ok none, sc)
    match parent with
    | (.ok p, sc') =>
      match sc'.run (Space.defineClass (some qualified) p) with
      | (.ok h, sc'') => (.ok (.object h), sc'')
      | (.error f, sc'') => (.error f, sc'')
    | (.error f, sc') => (.error f, sc')
  | .inst _ cls =>
    match sc.evaluateText cls with
    | (.ok c, sc') =>
      match sc'.run (Space.instantiate c) with
      | (.ok v, sc'') =>
        match v with
        | .object h =>
          match sc''.run (Space.nameConstant h qualified) with
          | (.ok (), sc''') => (.ok v, sc''')
          | (.error f, sc''') => (.error f, sc''')
        | _ => (.ok v, sc'')
      | (.error f, sc'') => (.error f, sc'')
    | (.error f, sc') => (.error f, sc')

/-- Declare an entity of the fixture from `origin` in a scope. -/
def declareEntity (origin : String) (sc : Scope) (e : EntityDecl) : Except LoadError Scope :=
  if !Expr.isConstantIdentifier e.name then .error (.invalidName origin e.name "entity")
  else
    let qualified := sc.names.qualify e.name
    if sc.names.contains qualified then .error (.duplicateEntity origin qualified)
    else
      match entityValue qualified sc e with
      | (.ok v, sc') => .ok { sc' with names := (sc'.names.define qualified v).2 }
      | (.error f, _) => .error (.entity origin qualified f)

/-- The producer of an example with a description: the description's value in the scope,
    or the fault of parsing it. -/
def producerOf (description : String) : Scope → Produced × Scope :=
  match Expr.parse description with
  | .ok e => fun sc =>
    match sc.evaluate e with
    | (.ok v, sc') => (.value v, sc')
    | (.error f, sc') => (.fault f, sc')
  | .error f => fun sc => (.fault f, sc)

/-- Register an example of the fixture from `origin`, evaluating its expected value. -/
def registerExample (origin : String) (acc : Registry Scope × Scope) (ex : ExampleDecl) :
    Except LoadError (Registry Scope × Scope) :=
  match acc.2.evaluateText ex.expected with
  | (.ok v, sc') => .ok (acc.1.register ⟨ex.description, v, producerOf ex.description⟩, sc')
  | (.error f, _) => .error (.expected origin ex.description f)

namespace LoadedFixture

/-- Load a fixture from its text; `path`, if given, is where the text was read from and
    names the fixture in errors. -/
def fromToml (content : String) (path : Option String) : Except LoadError LoadedFixture := do
  let origin := path.getD "<inline>"
  let file ← match parseFile content with
    | .ok f => pure f
    | .error e => throw (.parse origin (e.render content))
  if Text.isBlankText file.name then throw (.missingName origin)
  match file.module with
  | some m => if !Expr.isConstantPath m then throw (.invalidName origin m "module")
  | none => pure ()
  let scope : Scope := ⟨Space.initial, Namespace.withBuiltins file.module⟩
  let scope ← file.entities.foldlM (declareEntity origin) scope
  let (registry, scope) ← file.examples.foldlM (registerExample origin) (Registry.empty, scope)
  pure ⟨file.name, file.description, path, scope, registry⟩

/-- Evaluate every example; the scope moves on with the evaluation. -/
def run (f : LoadedFixture) : RunReport × LoadedFixture :=
  match f.registry.run f.scope with
  | (.ok os, sc) => (RunReport.ofOutcomes os, { f with scope := sc })
  | (.error _, sc) => (RunReport.ofOutcomes [], { f with scope := sc })

/-- Evaluate the first `k` examples. -/
def take (f : LoadedFixture) (k : Nat) : List Outcome × LoadedFixture :=
  match f.registry.take k f.scope with
  | (.ok os, sc) => (os, { f with scope := sc })
  | (.error _, sc) => ([], { f with scope := sc })

/-- How values are shown in the fixture's reports. -/
def inspect (f : LoadedFixture) (v : Value) : String := f.scope.space.inspect v

/-- The text report of a run of the fixture. -/
def renderText (f : LoadedFixture) (r : RunReport) : String := r.renderText f.inspect

/-- The structural description of the fixture. -/
def shape (f : LoadedFixture) : Text.Shape :=
  .record "LoadedFixture" [("name", .text f.name), ("description", .text f.description),
    ("path", .option .text f.path), ("scope", f.scope.shape),
    ("registry", f.registry.shape)] false

end LoadedFixture

end Fixture

end ReflectCheck
