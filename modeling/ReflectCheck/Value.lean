import ReflectCheck.Text.Quoted

/-!
# Values and how they are compared

An expectation compares an expected value with the value its producer gives. Values are
the primitives `nil`, booleans, integers and strings, and references to entities of an
object space (`Handle`). A reference is equal to another only when both name the same
slot; primitives are equal when they are the same value. The comparison in force is
chosen from the two values (`Comparison.select`): identity for two references, value for
two primitives, and a kind mismatch, which never holds, for one of each.
-/

namespace ReflectCheck

/-- A handle on an entity of an object space: the number of the slot it occupies. -/
structure Handle where
  /-- The slot of the entity. -/
  slot : Nat
  deriving DecidableEq, Inhabited

namespace Handle

/-- The text of a handle: `#` followed by its slot. -/
def text (h : Handle) : String := "#" ++ toString h.slot

end Handle

/-- A value that a producer yields or an expectation expects. -/
inductive Value where
  /-- The absence of a value. -/
  | nil
  /-- A boolean. -/
  | bool (b : Bool)
  /-- A signed 64-bit integer. -/
  | int (i : Int)
  /-- A string. -/
  | str (s : String)
  /-- A reference to an entity. -/
  | object (h : Handle)
  deriving DecidableEq, Inhabited

namespace Value

/-- Whether the value is compared by value rather than by identity. -/
def isPrimitive : Value → Bool
  | .object _ => false
  | _ => true

/-- The handle of a reference. -/
def handle? : Value → Option Handle
  | .object h => some h
  | _ => none

/-- The text of a value: `nil`, `true`, `false`, the decimal integer, the quoted string,
    or `#<object #n>` for a reference. -/
def display : Value → String
  | .nil => "nil"
  | .bool b => if b then "true" else "false"
  | .int i => toString i
  | .str s => Text.quote s
  | .object h => "#<object " ++ h.text ++ ">"

/-- The value built again from its parts: the flag, the number, the text or the
    handle it holds. -/
def rebuild : Value → Value
  | .nil => .nil
  | .bool b => .bool b
  | .int i => .int i
  | .str s => .str (String.ofList s.toList)
  | .object h => .object ⟨h.slot⟩

theorem rebuild_eq (v : Value) : v.rebuild = v := by
  cases v <;> simp [rebuild]

end Value

/-- How an expected value and an actual value are compared. -/
inductive Comparison where
  /-- Both are references: they must name the same entity. -/
  | identity
  /-- Both are primitives: they must be equal. -/
  | value
  /-- One is a reference and the other a primitive: never equal. -/
  | kindMismatch
  deriving DecidableEq, Inhabited

namespace Comparison

/-- The comparison that applies to a pair of values. -/
def select (expected actual : Value) : Comparison :=
  match expected.isPrimitive, actual.isPrimitive with
  | false, false => .identity
  | true, true => .value
  | _, _ => .kindMismatch

/-- Whether the pair passes under this comparison. -/
def holds : Comparison → Value → Value → Bool
  | .identity, .object a, .object b => a == b
  | .identity, _, _ => false
  | .value, expected, actual => expected.isPrimitive && expected == actual
  | .kindMismatch, _, _ => false

/-- The comparison for the pair, and whether the pair passes under it. -/
def compare (expected actual : Value) : Comparison × Bool :=
  let c := select expected actual
  (c, c.holds expected actual)

/-- The name of a comparison in reports. -/
def name : Comparison → String
  | .identity => "identity"
  | .value => "value"
  | .kindMismatch => "kind_mismatch"

/-- A pair passes its own comparison exactly when the two values are equal. -/
theorem holds_select_iff (expected actual : Value) :
    (select expected actual).holds expected actual = true ↔ expected = actual := by
  cases expected <;> cases actual <;> simp [select, holds, Value.isPrimitive]

end Comparison

end ReflectCheck
