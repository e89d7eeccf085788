import ReflectCheck.Value

/-!
# Why an expectation cannot be evaluated

A `Fault` is the reason an expectation yields no value: a missing description, an
unknown constant, a reflective operation its receiver does not support, a value of the
wrong kind, an expression that does not parse, a producer that panicked, a handle from
another object space, or an object space that cannot grow. Faults never abort a run:
each becomes the outcome of its own expectation.
-/

namespace ReflectCheck

/-- The reason an expectation could not be evaluated. -/
inductive Fault where
  /-- The expectation has an empty or blank description. -/
  | missingDescription
  /-- No constant of this name is defined. -/
  | unknownEntity (name : String)
  /-- The receiver, shown inspected, does not support the method. -/
  | unsupported (method receiver : String)
  /-- A value of the wrong kind, shown inspected, where `expected` was required. -/
  | typeMismatch (expected found : String)
  /-- The expression text does not parse, for the given reason. -/
  | unparsable (expression reason : String)
  /-- The producer panicked with this message. -/
  | panicked (message : String)
  /-- The slot does not belong to the object space. -/
  | dangling (slot : Nat)
  /-- The object space has no free slot left. -/
  | exhausted
  deriving DecidableEq, Inhabited

namespace Fault

/-- The text of a fault. -/
def message : Fault → String
  | .missingDescription => "expectation has no description"
  | .unknownEntity name => "uninitialized constant " ++ name
  | .unsupported method receiver => "undefined method `" ++ method ++ "` for " ++ receiver
  | .typeMismatch expected found => "wrong argument type " ++ found ++ " (expected " ++ expected ++ ")"
  | .unparsable expression reason => "cannot parse `" ++ expression ++ "`: " ++ reason
  | .panicked message => "producer panicked: " ++ message
  | .dangling slot => "object #" ++ toString slot ++ " does not belong to this object space"
  | .exhausted => "object space is exhausted"

end Fault

end ReflectCheck
