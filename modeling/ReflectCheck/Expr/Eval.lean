import ReflectCheck.Expr.Basic
import ReflectCheck.Namespace

/-!
# Evaluating expressions

An expression denotes the value of its receiver, a literal or a constant looked up in a
namespace, after each of its method calls in turn. Calls run in the object space and may
allocate there; the first call that faults ends the evaluation, and the space keeps what
the calls before it allocated.
-/

namespace ReflectCheck

namespace Expr

/-- Apply a method to a receiver. -/
def Method.apply : Method → Value → SpaceM Value
  | .cls, v => Space.classOf v
  | .superclass, v => Space.superclassOf v
  | .singletonClass, v => Space.identityDescriptor v
  | .new, v => Space.instantiate v
  | .name, v => Space.nameOf v

/-- Apply methods in order, each to the value of the one before. -/
def applyAll : List Method → Value → SpaceM Value
  | [], v => pure v
  | m :: ms, v => do applyAll ms (← m.apply v)

/-- The value of an expression, with constants looked up in `ns`. -/
def eval (ns : Namespace) (e : Expr) : SpaceM Value := do
  let start ← match e.receiver with
    | .literal v => pure v
    | .constant path =>
      match ns.resolve path with
      | .ok v => pure v
      | .error f => throw f
  applyAll e.calls start

end Expr

namespace Scope

/-- Evaluate an expression in the scope; the scope's space moves on with the
    evaluation, fault or not. -/
def evaluate (sc : Scope) (e : Expr) : Except Fault Value × Scope :=
  match (e.eval sc.names).run sc.space with
  | .ok v s => (.ok v, { sc with space := s })
  | .error f s => (.error f, { sc with space := s })

end Scope

end ReflectCheck
