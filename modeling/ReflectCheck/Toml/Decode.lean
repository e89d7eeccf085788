import ReflectCheck.Toml.Document
import ReflectCheck.Text.Quoted

/-!
# Reading typed values from TOML documents

A document node is read into the value of a type by a reader of type
`Node → Except Error α`. When the node has another shape than the reader wants, the
error names what was found and what was expected, as in
"invalid type: integer `1`, expected a string". What was found is named by its shape:
`string "x"` (quoted with escapes), `integer `1``, `floating point `1.5``,
`boolean `true``, `sequence` for an array and `map` for a table or a date. A date read
as a record is a table of one entry, its text under a key of its own.

Errors are made without a range; `Node.read` gives them the range of the node being
read. Nested reads go through `Node.read` too, so an error is placed at the innermost
node read this way: the value of a field, an element of an array. Reading the fields of
a record reports, in the order of the keys (sorted by their bytes), an unknown field at
its key and a wrong value at the value; a missing field is reported after all keys are
read, at the table.

Integers beyond 64 bits are named with their width (`integer `N` as i128`), and those
beyond 128 bits, like those written without digits, cannot be read at all ("integer
number overflowed"), nor can floats beyond the greatest finite number ("floating-point
number overflowed"), whatever was wanted.
-/

namespace ReflectCheck.Toml

/-- An error whose range the node being read supplies. -/
def plainError (message : String) : Error := ⟨message, none⟩

/-- The error with range `span` if it has none yet. -/
def Error.within (span : Span) (e : Error) : Error :=
  if e.span.isSome then e else ⟨e.message, some span⟩

/-- Read a node with a reader, errors without a range taking the node's. -/
def Node.read {α : Type} (n : Node) (f : Node → Except Error α) : Except Error α :=
  match f n with
  | .ok a => .ok a
  | .error e => .error (e.within n.span)

/-- The widths an integer can be handed over in. -/
inductive IntWidth where
  /-- A signed 64-bit integer. -/
  | signed
  /-- An unsigned 64-bit integer that is no signed one. -/
  | unsigned
  /-- A signed 128-bit integer that is no 64-bit one. -/
  | signed128
  /-- An unsigned 128-bit integer that is no signed one. -/
  | unsigned128
  /-- Too wide for any. -/
  | overflow
  deriving DecidableEq

/-- Two to the power `n`, as an integer. -/
def twoPow (n : Nat) : Int := Int.ofNat (Nat.pow 2 n)

/-- The narrowest width that holds an integer. -/
def intWidth (i : Int) : IntWidth :=
  if -twoPow 63 ≤ i ∧ i < twoPow 63 then .signed
  else if 0 ≤ i ∧ i < twoPow 64 then .unsigned
  else if -twoPow 127 ≤ i ∧ i < twoPow 127 then .signed128
  else if 0 ≤ i ∧ i < twoPow 128 then .unsigned128
  else .overflow

/-- The narrowest width that holds an integer's value; one without a value fits none. -/
def valueWidth : Option Int → IntWidth
  | some i => intWidth i
  | none => .overflow

/-- An integer as messages name it, with its width when that is wider than 64 bits. -/
def intShown (i : Int) : String :=
  let base := "integer `" ++ toString i ++ "`"
  match intWidth i with
  | .signed128 => base ++ " as i128"
  | .unsigned128 | .overflow => base ++ " as u128"
  | _ => base

namespace Node

/-- What a node is, as type errors name it. -/
def unexpected : Node → String
  | .scalar (.str s) _ => "string " ++ Text.quote s
  | .scalar (.int (some i)) _ => intShown i
  | .scalar (.int none) _ => "integer"
  | .scalar (.float (some f)) _ => "floating point `" ++ f.display ++ "`"
  | .scalar (.float none) _ => "floating point"
  | .scalar (.bool b) _ => "boolean `" ++ (if b then "true" else "false") ++ "`"
  | .scalar (.datetime _) _ => "map"
  | .array .. => "sequence"
  | .table .. => "map"

/-- The kind of a node, as messages about enumerations name it. -/
def typeName : Node → String
  | .scalar (.str _) _ => "string"
  | .scalar (.int _) _ => "integer"
  | .scalar (.float _) _ => "float"
  | .scalar (.bool _) _ => "boolean"
  | .scalar (.datetime _) _ => "datetime"
  | .array .. => "array"
  | .table .. => "table"

end Node

/-- The message for a number that cannot be read at all: an integer beyond 128 bits or
    written without digits, or a float beyond the greatest finite number. -/
def Scalar.overflow? : Scalar → Option String
  | .int v => if valueWidth v = .overflow then some "integer number overflowed" else none
  | .float none => some "floating-point number overflowed"
  | _ => none

/-- The error for a node of the wrong shape, where `expected` was wanted; a number that
    cannot be read at all reports that instead. -/
def mismatch (n : Node) (expected : String) : Error :=
  match n with
  | .scalar v _ =>
    match v.overflow? with
    | some m => plainError m
    | none => plainError ("invalid type: " ++ n.unexpected ++ ", expected " ++ expected)
  | _ => plainError ("invalid type: " ++ n.unexpected ++ ", expected " ++ expected)

/-- Names in backquotes as alternatives: "`a`", "`a` or `b`", "one of `a`, `b`, `c`". -/
def oneOf (names : List String) : String :=
  let tick (s : String) := "`" ++ s ++ "`"
  match names with
  | [a] => tick a
  | [a, b] => tick a ++ " or " ++ tick b
  | _ => "one of " ++ ", ".intercalate (names.map tick)

/-- The message for a key that names no field. -/
def unknownField (key : String) (fields : List String) : String :=
  if fields.isEmpty then "unknown field `" ++ key ++ "`, there are no fields"
  else "unknown field `" ++ key ++ "`, expected " ++ oneOf fields

/-- The message for a word that names no variant. -/
def unknownVariant (word : String) (variants : List String) : String :=
  if variants.isEmpty then "unknown variant `" ++ word ++ "`, there are no variants"
  else "unknown variant `" ++ word ++ "`, expected " ++ oneOf variants

/-- The message for a field that is missing. -/
def missingField (field : String) : String := "missing field `" ++ field ++ "`"

/-- The message for a sequence of the wrong length. -/
def invalidLength (length : Nat) (expected : String) : String :=
  "invalid length " ++ toString length ++ ", expected " ++ expected

/-- Put an entry before the first entry whose key is not below its own. -/
def insertEntry (e : Entry) : List Entry → List Entry
  | [] => [e]
  | x :: xs => if e.1 ≤ x.1 then e :: x :: xs else x :: insertEntry e xs

/-- Entries in the order of their keys' bytes; entries of one key keep their order. -/
def sortEntries : List Entry → List Entry
  | [] => []
  | e :: es => insertEntry e (sortEntries es)

/-- A string. -/
def readString (expected : String) (n : Node) : Except Error String :=
  match n with
  | .scalar (.str s) _ => .ok s
  | _ => .error (mismatch n expected)

/-- A boolean. -/
def readBool (n : Node) : Except Error Bool :=
  match n with
  | .scalar (.bool b) _ => .ok b
  | _ => .error (mismatch n "a boolean")

/-- A non-negative integer of at most 64 bits. A negative one of 64 bits has the wrong
    value; one that needs 128 bits has the wrong type. -/
def readUsize (n : Node) : Except Error Nat :=
  match n with
  | .scalar (.int none) _ => .error (plainError "integer number overflowed")
  | .scalar (.int (some i)) _ =>
    match intWidth i with
    | .signed =>
      if i < 0 then .error (plainError ("invalid value: " ++ intShown i ++ ", expected usize"))
      else .ok i.toNat
    | .unsigned => .ok i.toNat
    | .overflow => .error (plainError "integer number overflowed")
    | _ => .error (plainError ("invalid type: " ++ intShown i ++ ", expected usize"))
  | _ => .error (mismatch n "usize")

/-- A sequence, each element read with `f`. -/
def readSeq {α : Type} (f : Node → Except Error α) (n : Node) : Except Error (List α) :=
  match n with
  | .array items _ _ => items.mapM fun item => item.read f
  | _ => .error (mismatch n "a sequence")

/-- The key under which a date or time is handed over when it is read as a table. -/
def datetimeKey : String := "$__toml_private_datetime"

/-- The entries of a node read as a table: a table's own, or for a date or time one
    entry with its text under `datetimeKey`, at the node's range. -/
def Node.entries? : Node → Option (List Entry)
  | .table es _ _ => some es
  | .scalar (.datetime text) sp => some [(datetimeKey, sp, .scalar (.str text) sp)]
  | _ => none

/-- The entries of a table (or of a date read as one), sorted by key, for reading the
    record named by `expected`. -/
def readRecord (expected : String) (n : Node) : Except Error (List Entry) :=
  match n.entries? with
  | some es => .ok (sortEntries es)
  | none => .error (mismatch n expected)

/-- One of the unit variants `variants` of an enumeration: a string naming it, or a table
    with the variant as its one key and an empty table or array as value. -/
def readUnitVariant (variants : List String) (n : Node) : Except Error String :=
  match n with
  | .scalar (.str s) _ =>
    if s ∈ variants then .ok s else .error (plainError (unknownVariant s variants))
  | .table [] _ _ => .error (plainError "wanted exactly 1 element, found 0 elements")
  | .table [(k, ksp, v)] _ _ =>
    if k ∈ variants then
      match v with
      | .table [] _ _ | .array [] _ _ => .ok k
      | .table _ _ sp => .error ⟨"expected empty table", some sp⟩
      | .array _ _ sp => .error ⟨"expected empty array", some sp⟩
      | _ => .error ⟨"expected table, found " ++ v.typeName, some v.span⟩
    else .error ⟨unknownVariant k variants, some ksp⟩
  | .table .. => .error (plainError "wanted exactly 1 element, more than 1 element")
  | _ => .error (plainError "wanted string or table")

end ReflectCheck.Toml
