import ReflectCheck.Outcome
import ReflectCheck.Text.Blank

/-!
# Registries of expectations

An expectation pairs a description and an expected value with a producer, which works in
a context (an object space, or the scope of a fixture) and gives a value, a fault, or a
panic. A registry holds expectations in the order they were registered and evaluates
them in that order, each in the context left by the one before.

An expectation whose description is blank gives the `missingDescription` fault without
running its producer. With panic capture on (the default) a panic becomes the fault
`panicked` with the panic's message; with it off, the panic ends the run, and the
context keeps what the producers before it did.

`Registry.take k` evaluates the first `k` expectations only; `Registry.evaluate` all of
them. `Registry.runAll` evaluates them lazily: each step of the `Run` it returns
evaluates one expectation, so a producer runs only when its outcome is asked for.
-/

namespace ReflectCheck

/-- What a panic carries: a message, or something else. -/
inductive Payload where
  /-- A text message. -/
  | message (text : String)
  /-- A value that is not text. -/
  | other
  deriving DecidableEq, Inhabited

namespace Payload

/-- The message of a panic, as a captured panic reports it. -/
def text : Payload → String
  | .message t => t
  | .other => "non-string panic payload"

end Payload

/-- What a producer gives. -/
inductive Produced where
  /-- A value. -/
  | value (v : Value)
  /-- A fault. -/
  | fault (f : Fault)
  /-- A panic. -/
  | panic (p : Payload)
  deriving Inhabited

/-- An expectation over contexts `C`. -/
structure Expectation (C : Type) where
  /-- What the expectation checks. -/
  description : String
  /-- The value the producer must give. -/
  expected : Value
  /-- The producer, with the context it leaves. -/
  producer : C → Produced × C

namespace Expectation

variable {C : Type}

/-- Whether the description has a character that is not blank. -/
def wellFormed (e : Expectation C) : Bool := !Text.isBlankText e.description

/-- Run the producer, unless the description is blank; with `capture`, a panic becomes
    a fault. -/
def produce (e : Expectation C) (capture : Bool) (ctx : C) : Produced × C :=
  if e.wellFormed then
    match e.producer ctx with
    | (.panic p, ctx') => if capture then (.fault (.panicked p.text), ctx') else (.panic p, ctx')
    | r => r
  else (.fault .missingDescription, ctx)

/-- The outcome of the expectation at position `index`, or the panic that ends the run. -/
def evaluate (e : Expectation C) (index : Nat) (capture : Bool) (ctx : C) :
    Except Payload Outcome × C :=
  let (produced, ctx') := e.produce capture ctx
  match produced with
  | .value v =>
    let (comparison, equal) := Comparison.compare e.expected v
    (.ok ⟨index, e.description, if equal then .pass else .fail, some comparison, e.expected,
      some v⟩, ctx')
  | .fault f => (.ok ⟨index, e.description, .fixtureError f, none, e.expected, none⟩, ctx')
  | .panic p => (.error p, ctx')

end Expectation

/-- Expectations in registration order, and whether panics are captured. -/
structure Registry (C : Type) where
  /-- The expectations, in order. -/
  expectations : List (Expectation C)
  /-- Whether a panic becomes a fault instead of ending the run. -/
  capturePanics : Bool := true

namespace Registry

variable {C : Type}

/-- An empty registry that captures panics. -/
def empty : Registry C := ⟨[], true⟩

/-- Add an expectation at the end. -/
def register (r : Registry C) (e : Expectation C) : Registry C :=
  { r with expectations := r.expectations ++ [e] }

/-- The number of expectations. -/
def size (r : Registry C) : Nat := r.expectations.length

/-- The descriptions, in order. -/
def descriptions (r : Registry C) : List String := r.expectations.map (·.description)

/-- Evaluate expectations in order, numbering them from `index`. -/
def evalFrom (capture : Bool) : List (Expectation C) → Nat → C → Except Payload (List Outcome) × C
  | [], _, ctx => (.ok [], ctx)
  | e :: rest, index, ctx =>
    match e.evaluate index capture ctx with
    | (.error p, ctx') => (.error p, ctx')
    | (.ok o, ctx') =>
      match evalFrom capture rest (index + 1) ctx' with
      | (.ok os, ctx'') => (.ok (o :: os), ctx'')
      | (.error p, ctx'') => (.error p, ctx'')

/-- Evaluate the first `k` expectations. -/
def take (r : Registry C) (k : Nat) (ctx : C) : Except Payload (List Outcome) × C :=
  evalFrom r.capturePanics (r.expectations.take k) 0 ctx

/-- Evaluate every expectation. -/
def run (r : Registry C) (ctx : C) : Except Payload (List Outcome) × C :=
  evalFrom r.capturePanics r.expectations 0 ctx

end Registry

/-- A lazy evaluation of a registry in progress. -/
structure Run (C : Type) where
  /-- The expectations not evaluated yet, in order. -/
  pending : List (Expectation C)
  /-- The position of the next expectation. -/
  index : Nat
  /-- The context the next producer works in. -/
  context : C
  /-- Whether a panic becomes a fault. -/
  capture : Bool

/-- Evaluate the expectations lazily, from the first. -/
def Registry.runAll {C : Type} (r : Registry C) (ctx : C) : Run C :=
  ⟨r.expectations, 0, ctx, r.capturePanics⟩

namespace Run

variable {C : Type}

/-- The number of outcomes still to come. -/
def len (run : Run C) : Nat := run.pending.length

/-- Evaluate the next expectation: its outcome, or the panic that escapes its producer,
    and the run past it; `none` once every expectation has been evaluated. -/
def next (run : Run C) : Option (Except Payload Outcome × Run C) :=
  match run.pending with
  | [] => none
  | e :: rest =>
    let (result, ctx) := e.evaluate run.index run.capture run.context
    some (result, ⟨rest, run.index + 1, ctx, run.capture⟩)

end Run

end ReflectCheck
