/-!
# Paths

Paths are kept as the text they were written or built as, since that text is what
reports show. Two paths are the same path, and are ordered, by their components: the
parts between slashes, where empty parts and `.` parts are dropped, except a `.` that
starts a relative path. Components compare as text, and a `.` or `..` component comes
before any named one. So `a/b.toml` comes before `a b.toml` (the component `a` is a
prefix of `a b.toml`), and `sub/./a.toml` is the same path as `sub/a.toml`.

A path joined with a name gets a slash between them unless it is empty or already ends
with one. A file name's extension is what follows its last dot, unless that dot starts
the name.
-/

namespace ReflectCheck.Files

/-- A component of a path. -/
inductive Component where
  /-- The root of an absolute path. -/
  | root
  /-- A `.` starting a relative path. -/
  | current
  /-- A `..`. -/
  | parent
  /-- A named entry. -/
  | normal (name : String)
  deriving DecidableEq, Inhabited

namespace Component

/-- The rank of the kind of a component, in the order kinds compare. -/
def rank : Component → Nat
  | .root => 0
  | .current => 1
  | .parent => 2
  | .normal _ => 3

/-- Compare two components. -/
def compare (a b : Component) : Ordering :=
  match a, b with
  | .normal x, .normal y => Ord.compare x y
  | _, _ => Ord.compare a.rank b.rank

end Component

/-- The components of a path. With `continued`, the path continues another one, so a
    `.` at its start is dropped like any other. -/
def components (continued : Bool) (p : String) : List Component :=
  let parts := (p.toList.splitOn '/').map String.ofList
  let absolute := p.toList.head? == some '/'
  let named := parts.zipIdx.filterMap fun (part, i) =>
    if part = "" then none
    else if part = "." then
      if i = 0 && !absolute && !continued then some Component.current else none
    else if part = ".." then some Component.parent
    else some (Component.normal part)
  if absolute then .root :: named else named

/-- Compare two lists of components, the first difference deciding. -/
def compareComponents : List Component → List Component → Ordering
  | [], [] => .eq
  | [], _ :: _ => .lt
  | _ :: _, [] => .gt
  | a :: as, b :: bs =>
    match a.compare b with
    | .eq => compareComponents as bs
    | o => o

/-- Compare two paths by their components. -/
def comparePaths (continued : Bool) (a b : String) : Ordering :=
  compareComponents (components continued a) (components continued b)

/-- A path joined with a name. -/
def join (base name : String) : String :=
  if base = "" || base.toList.getLast? == some '/' then base ++ name else base ++ "/" ++ name

/-- The extension of a file name, if it has one. -/
def extension? (name : String) : Option String :=
  if name = ".." then none
  else
    match ((name.toList.splitOn '.').map String.ofList).reverse with
    | ext :: before :: more =>
      if before = "" && more.isEmpty then none else some ext
    | _ => none

/-- Insert a path into paths sorted by components, unless the same path is there already
    (the one there stays). -/
def insertPath (continued : Bool) (p : String) : List String → List String
  | [] => [p]
  | q :: rest =>
    match comparePaths continued p q with
    | .lt => p :: q :: rest
    | .eq => q :: rest
    | .gt => q :: insertPath continued p rest

/-- Paths sorted by components, the first of equal ones kept. -/
def sortPaths (continued : Bool) (ps : List String) : List String :=
  ps.foldl (fun acc p => insertPath continued p acc) []

end ReflectCheck.Files
