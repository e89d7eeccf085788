import ReflectCheck.Files.Tree

/-!
# Finding fixture files

A root that is a file is a fixture file itself, whatever its name. A root that does not
exist has no fixture files. A directory is walked depth first, its entries in name
order, and every file in it whose extension is `toml` is a fixture file, named by the
root joined with the names leading to it.

Finding the fixture files of several roots collects them all, sorted and without
duplicates: paths are compared by components, and of two paths that are the same the
first one found is kept.
-/

namespace ReflectCheck.Fixture

open Files

mutual

/-- The fixture files among the entries of a directory shown as `shown`, in walk order. -/
def fixturesOfEntries (shown : String) : List (String × Tree) → List String
  | [] => []
  | entry :: rest => fixturesOfEntry shown entry ++ fixturesOfEntries shown rest

/-- The fixture files of one entry of a directory shown as `shown`. -/
def fixturesOfEntry (shown : String) : String × Tree → List String
  | (name, .file _) => if extension? name = some "toml" then [join shown name] else []
  | (name, .dir entries) => fixturesOfEntries (join shown name) entries

end

/-- The fixture files of one root, in walk order. -/
def discoverFixtures (t : Tree) (root : String) : List String :=
  match t.lookup root with
  | some (.file _) => [root]
  | some (.dir entries) => fixturesOfEntries root entries
  | none => []

/-- The fixture files of several roots, sorted by components without duplicates; with
    `continued` the roots continue a common base path. -/
def discoverAll (continued : Bool) (t : Tree) (roots : List String) : List String :=
  sortPaths continued (roots.flatMap (discoverFixtures t))

end ReflectCheck.Fixture
