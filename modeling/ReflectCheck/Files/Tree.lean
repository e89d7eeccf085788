import ReflectCheck.Files.Path

/-!
# File trees

A file tree is what a program sees of a file system: directories holding named
entries, and files holding bytes. Entries of a directory are kept sorted by name, so a
walk visits them in that order.

A path is walked step by step from the top of the tree, as a file system walks it:
every step starts from a directory, `.` stays, `..` goes back up, and nothing lies above
the top. Reading a file gives its text, or the reason it cannot be read: there is no
such file, it is a directory, or its bytes are not UTF-8.
-/

namespace ReflectCheck.Files

/-- An entry of a file tree. -/
inductive Tree where
  /-- A file and its bytes. -/
  | file (bytes : ByteArray)
  /-- A directory and its entries, sorted by name. -/
  | dir (entries : List (String × Tree))
  deriving Inhabited

namespace Tree

/-- An empty directory. -/
def empty : Tree := .dir []

/-- Put `t` under `name` in sorted entries, with `f` making it from what was there. -/
def upsert (name : String) (f : Option Tree → Tree) : List (String × Tree) → List (String × Tree)
  | [] => [(name, f none)]
  | (n, t) :: rest =>
    if n = name then (n, f (some t)) :: rest
    else if name < n then (name, f none) :: (n, t) :: rest
    else (n, t) :: upsert name f rest

/-- Put an entry at a path of names, making the directories on the way. -/
def put : List String → Tree → Tree → Tree
  | [], new, _ => new
  | name :: rest, new, .dir entries =>
    .dir (upsert name (fun old => put rest new (old.getD empty)) entries)
  | name :: rest, new, .file _ => .dir [(name, put rest new empty)]

/-- The names of a path relative to the top of the tree, `..` going up. -/
def resolveNames (cs : List Component) : List String :=
  (cs.foldl (fun acc c => match c with
    | .normal n => n :: acc
    | .parent => acc.drop 1
    | _ => acc) []).reverse

/-- The entry at a path of names. -/
def find : List String → Tree → Option Tree
  | [], t => some t
  | name :: rest, .dir entries =>
    match entries.find? (·.1 = name) with
    | some (_, t) => find rest t
    | none => none
  | _ :: _, .file _ => none

/-- Why a path names nothing. -/
inductive Missing where
  /-- A name on the way is not there, or the path climbs above the top. -/
  | notFound
  /-- A file stands where the path needs a directory. -/
  | notDirectory
  deriving DecidableEq, Inhabited

/-- The steps of a path as it is walked: the root of an absolute path, then each part
    between slashes, where an empty part after the first is a `.` (so a path ending with
    a slash asks for a directory). The empty path has no steps: it names the top. -/
def steps (p : String) : List Component :=
  if p = "" then []
  else
    ((p.toList.splitOn '/').map String.ofList).zipIdx.map fun (part, i) =>
      if part = "" then (if i = 0 then Component.root else Component.current)
      else if part = "." then Component.current
      else if part = ".." then Component.parent
      else Component.normal part

/-- Walk steps from an entry, `up` holding the directories above it, nearest first.
    Every step is taken from a directory: a `.` stays, a `..` goes back up (never above
    the top), a name goes into the entry of that name, and a root goes to the top. -/
def walk (top : Tree) : List Component → List Tree → Tree → Except Missing Tree
  | [], _, t => .ok t
  | _ :: _, _, .file _ => .error .notDirectory
  | .root :: rest, _, .dir _ => walk top rest [] top
  | .current :: rest, up, .dir entries => walk top rest up (.dir entries)
  | .parent :: rest, up, .dir _ =>
    match up with
    | [] => .error .notFound
    | parent :: above => walk top rest above parent
  | .normal name :: rest, up, .dir entries =>
    match entries.find? (·.1 = name) with
    | some (_, t) => walk top rest (.dir entries :: up) t
    | none => .error .notFound

/-- The entry at a path, or why there is none. The empty path names the top. -/
def locate (t : Tree) (p : String) : Except Missing Tree := walk t (steps p) [] t

/-- The entry at a path. -/
def lookup (t : Tree) (p : String) : Option Tree := (t.locate p).toOption

/-- Whether a path names a file. -/
def isFile (t : Tree) (p : String) : Bool :=
  match t.lookup p with
  | some (.file _) => true
  | _ => false

/-- Whether a path names anything. -/
def present (t : Tree) (p : String) : Bool := (t.lookup p).isSome

/-- The text of the file at a path, or why it cannot be read. -/
def read (t : Tree) (p : String) : Except String String :=
  match t.locate p with
  | .ok (.file bytes) =>
    match String.fromUTF8? bytes with
    | some s => .ok s
    | none => .error "stream did not contain valid UTF-8"
  | .ok (.dir _) => .error "Is a directory (os error 21)"
  | .error .notDirectory => .error "Not a directory (os error 20)"
  | .error .notFound => .error "No such file or directory (os error 2)"

/-- The tree with a file of some text added at a path. -/
def addFile (t : Tree) (p : String) (bytes : ByteArray) : Tree :=
  put (resolveNames (components true p)) (.file bytes) t

/-- The tree with a directory added at a path (and the directories on the way). -/
def addDir (t : Tree) (p : String) : Tree :=
  let names := resolveNames (components true p)
  match t.find names with
  | some (.dir _) => t
  | _ => put names empty t

end Tree

end ReflectCheck.Files
