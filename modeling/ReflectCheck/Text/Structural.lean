import ReflectCheck.Text.Quoted

/-!
# Structural descriptions

A structural description shows a value by its shape: records as `Name { field: value }`
(with `..` when some fields are left out), tagged tuples as `Name(value, value)`, bare
tags as `Name`, lists as `[a, b]`, maps as `{key: value}`, and strings quoted. Each kind
of value of the library that has such a description builds a `Shape`, and `Shape.render`
is the one printer for all of them.
-/

namespace ReflectCheck.Text

/-- The shape of a value, for its structural description. -/
inductive Shape where
  /-- Text shown as it is: a number, a boolean, a bare tag. -/
  | atom (text : String)
  /-- A string, shown quoted. -/
  | text (s : String)
  /-- A record with named fields; `more` marks fields left out. -/
  | record (name : String) (fields : List (String × Shape)) (more : Bool)
  /-- A tag with positional values. -/
  | tuple (name : String) (items : List Shape)
  /-- A list of values. -/
  | list (items : List Shape)
  /-- A map from keys to values, in key order. -/
  | map (entries : List (Shape × Shape))
  deriving Inhabited

namespace Shape

/-- An optional value: `Some(v)` or `None`. -/
def option {α : Type} (f : α → Shape) : Option α → Shape
  | some a => .tuple "Some" [f a]
  | none => .atom "None"

/-- A number. -/
def nat (n : Nat) : Shape := .atom (toString n)

/-- A boolean. -/
def bool (b : Bool) : Shape := .atom (if b then "true" else "false")

mutual

/-- The structural description of a shape. -/
def render : Shape → String
  | .atom t => t
  | .text s => quote s
  | .record name fields more =>
    let body := renderFields fields
    let tail := if more then (if fields.isEmpty then ".." else ", ..") else ""
    name ++ " \x7b " ++ body ++ tail ++ " \x7d"
  | .tuple name items => name ++ "(" ++ renderItems items ++ ")"
  | .list items => "[" ++ renderItems items ++ "]"
  | .map entries => "\x7b" ++ renderEntries entries ++ "\x7d"

/-- Fields `name: value`, separated by commas. -/
def renderFields : List (String × Shape) → String
  | [] => ""
  | [(n, v)] => n ++ ": " ++ render v
  | (n, v) :: rest => n ++ ": " ++ render v ++ ", " ++ renderFields rest

/-- Values separated by commas. -/
def renderItems : List Shape → String
  | [] => ""
  | [v] => render v
  | v :: rest => render v ++ ", " ++ renderItems rest

/-- Entries `key: value`, separated by commas. -/
def renderEntries : List (Shape × Shape) → String
  | [] => ""
  | [(k, v)] => render k ++ ": " ++ render v
  | (k, v) :: rest => render k ++ ": " ++ render v ++ ", " ++ renderEntries rest

end

end Shape

end ReflectCheck.Text
