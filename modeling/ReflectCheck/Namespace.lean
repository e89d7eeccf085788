import ReflectCheck.Space.Reflect

/-!
# Namespaces of constants

A namespace binds fully qualified constant names to values, in the byte order of the
names, and may belong to a module. A name is qualified by prefixing the module and `::`.
A constant path is looked up inside the module first and then at top level, so that in
module `M` both `A` and `M::A` name the binding of `M::A`.

The bindings are a list sorted by name without repeated names; `define` keeps it so,
and `find?` reads it.
-/

namespace ReflectCheck

/-- Constants visible to expressions, by fully qualified name. -/
structure Namespace where
  /-- The module the constants of a fixture are declared in. -/
  module : Option String
  /-- The bindings, sorted by name, each name once. -/
  constants : List (String × Value)
  deriving Inhabited

namespace Namespace

/-- An empty namespace. -/
def empty (module : Option String) : Namespace := ⟨module, []⟩

/-- Bind `name` to `v` in a sorted binding list, replacing an earlier binding. -/
def insertSorted (name : String) (v : Value) : List (String × Value) → List (String × Value)
  | [] => [(name, v)]
  | (n, w) :: rest =>
    if name < n then (name, v) :: (n, w) :: rest
    else if name = n then (name, v) :: rest
    else (n, w) :: insertSorted name v rest

/-- The value bound to a fully qualified name. -/
def find? (ns : Namespace) (name : String) : Option Value :=
  (ns.constants.find? fun (n, _) => n = name).map Prod.snd

/-- Whether a fully qualified name is bound. -/
def contains (ns : Namespace) (name : String) : Bool := (ns.find? name).isSome

/-- Bind a fully qualified name; the earlier binding, if any, comes back with the new
    namespace. -/
def define (ns : Namespace) (name : String) (v : Value) : Option Value × Namespace :=
  (ns.find? name, { ns with constants := insertSorted name v ns.constants })

/-- A namespace holding the built-in classes. -/
def withBuiltins (module : Option String) : Namespace :=
  Space.builtinConstants.foldl (fun ns (name, h) => (ns.define name (.object h)).2) (empty module)

/-- A constant name qualified with the module. -/
def qualify (ns : Namespace) (name : String) : String :=
  match ns.module with
  | some m => m ++ "::" ++ name
  | none => name

/-- Look a constant path up, inside the module first and then at top level. -/
def resolve (ns : Namespace) (path : List String) : Except Fault Value :=
  let joined := "::".intercalate path
  let inModule := ns.module.bind fun m => ns.find? (m ++ "::" ++ joined)
  match inModule with
  | some v => .ok v
  | none =>
    match ns.find? joined with
    | some v => .ok v
    | none => .error (.unknownEntity joined)

/-- The number of bindings. -/
def size (ns : Namespace) : Nat := ns.constants.length

end Namespace

/-- Where expressions of a fixture are evaluated: an object space and the constants
    bound in it. -/
structure Scope where
  /-- The object space. -/
  space : Space
  /-- The constants. -/
  names : Namespace
  deriving Inhabited

end ReflectCheck
