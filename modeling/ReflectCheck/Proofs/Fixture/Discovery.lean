import ReflectCheck.Fixture.Discovery
import ReflectCheck.Proofs.Files.Tree

/-!
# Finding fixture files in order

A directory is searched for fixture files depth first, its entries in name order, and no
sorting is done on the way; yet the paths come out in the component order of paths. In a
tree as a file system holds it (`Files.Tree.WellFormed`: plain names, strictly increasing
in every directory) this holds because joining a plain name appends one component
(`Files.components_join`): every path found below an entry starts with the components of
the directory and then the entry's name, and of two entries the one with the smaller name
comes first in the walk and in the order, whatever lies below either (a directory `a` before
`a-b` before `a.toml`).

* `Fixture.mem_fixturesOfEntries`: the paths found are the directory joined with the names
  leading to each file below it whose name has the extension `toml` (`Files.Tree.FileAt`);
* `Files.Tree.lookup_foldl_join`: each such path names that file in the tree, since a walk
  through a joined name goes into the entry of that name;
* `Fixture.fixturesOfEntries_sorted`: the paths found are strictly increasing;
* `Fixture.discovery_finds_fixtures_in_order`: for every root, and for several roots sorted
  together by `sortPaths`.
-/

namespace ReflectCheck.Fixture

open Files Tree

/-! ### Which files are found -/

theorem fixturesOfEntries_eq_flatMap (shown : String) (entries : List (String × Tree)) :
    fixturesOfEntries shown entries = entries.flatMap (fixturesOfEntry shown) := by
  induction entries with
  | nil => rw [fixturesOfEntries, List.flatMap_nil]
  | cons e rest ih => rw [fixturesOfEntries, ih, List.flatMap_cons]

theorem mem_fixturesOfEntry_file (shown name p : String) (bytes : ByteArray) :
    p ∈ fixturesOfEntry shown (name, .file bytes) ↔
      extension? name = some "toml" ∧ p = join shown name := by
  by_cases h : extension? name = some "toml" <;> simp [fixturesOfEntry, h]

/-- The files found in a directory are those found in its entries, given what each entry
    gives. -/
theorem mem_fixturesOfEntries_of {entries : List (String × Tree)}
    (h : ∀ e ∈ entries, ∀ shown p,
      p ∈ fixturesOfEntry shown e ↔ ∃ names, e.2.FileAt names ∧
        (e.1 :: names).getLast?.bind extension? = some "toml" ∧
          p = names.foldl join (join shown e.1))
    (shown p : String) :
    p ∈ fixturesOfEntries shown entries ↔ ∃ names, (Tree.dir entries).FileAt names ∧
      names.getLast?.bind extension? = some "toml" ∧ p = names.foldl join shown := by
  rw [fixturesOfEntries_eq_flatMap, List.mem_flatMap]
  constructor
  · rintro ⟨e, he, hp⟩
    obtain ⟨names, hf, hx, rfl⟩ := (h e he shown p).1 hp
    exact ⟨e.1 :: names, fileAt_dir_iff.2 ⟨e, he, names, rfl, hf⟩, hx, rfl⟩
  · rintro ⟨names, hf, hx, rfl⟩
    obtain ⟨e, he, rest, rfl, hrest⟩ := fileAt_dir_iff.1 hf
    exact ⟨e, he, (h e he shown _).2 ⟨rest, hrest, hx, rfl⟩⟩

/-- The files found below an entry named `name` are the files below it whose name has the
    extension `toml`, each shown as `shown` joined with `name` and the names leading to it. -/
theorem mem_fixturesOfEntry {t : Tree} (hw : t.WellFormed) (shown name p : String) :
    p ∈ fixturesOfEntry shown (name, t) ↔ ∃ names, t.FileAt names ∧
      (name :: names).getLast?.bind extension? = some "toml" ∧
        p = names.foldl join (join shown name) := by
  induction hw generalizing shown name p with
  | file bytes =>
    rw [mem_fixturesOfEntry_file]
    simp [fileAt_file_iff]
  | dir _ _ _ ih =>
    rw [fixturesOfEntry, mem_fixturesOfEntries_of fun e he shown p => ih e he shown e.1 p]
    exact exists_congr fun names => and_congr_right fun hf => by
      rw [getLast?_cons_of_fileAt_dir hf]

theorem mem_fixturesOfEntries {entries : List (String × Tree)}
    (hw : (Tree.dir entries).WellFormed) (shown p : String) :
    p ∈ fixturesOfEntries shown entries ↔ ∃ names, (Tree.dir entries).FileAt names ∧
      names.getLast?.bind extension? = some "toml" ∧ p = names.foldl join shown := by
  cases hw with
  | dir _ _ sub =>
    exact mem_fixturesOfEntries_of
      (fun e he shown p => mem_fixturesOfEntry (sub e he) shown e.1 p) shown p

/-! ### In what order -/

variable (c : Bool)

/-- Every file found below an entry named `name` has the components of `shown`, then
    `name`. -/
theorem components_of_mem_fixturesOfEntry {t : Tree} (hw : t.WellFormed)
    {shown name p : String} (hn : PlainName name) (hp : p ∈ fixturesOfEntry shown (name, t)) :
    ∃ rest, components c p = components c shown ++ .normal name :: rest := by
  obtain ⟨names, hf, -, rfl⟩ := (mem_fixturesOfEntry hw shown name p).1 hp
  refine ⟨names.map .normal, ?_⟩
  rw [components_foldl_join c _ (hw.plain_of_fileAt hf), components_join c shown hn,
    List.append_assoc]
  rfl

/-- Entries with strictly increasing plain names give strictly increasing paths, when each
    entry does: a path found below an entry comes before every path found below a later one. -/
theorem fixturesOfEntries_sorted_of {entries : List (String × Tree)}
    (hs : entries.Pairwise fun a b => a.1 < b.1) (hp : ∀ e ∈ entries, PlainName e.1)
    (hw : ∀ e ∈ entries, e.2.WellFormed)
    (h : ∀ e ∈ entries, ∀ shown,
      (fixturesOfEntry shown e).Pairwise fun p q => comparePaths c p q = .lt)
    (shown : String) :
    (fixturesOfEntries shown entries).Pairwise fun p q => comparePaths c p q = .lt := by
  induction entries with
  | nil =>
    rw [fixturesOfEntries]
    exact List.Pairwise.nil
  | cons e rest ih =>
    obtain ⟨name, t⟩ := e
    cases hs with
    | cons hlt hrest =>
      rw [fixturesOfEntries, List.pairwise_append]
      refine ⟨h _ List.mem_cons_self shown,
        ih hrest (fun e he => hp e (List.mem_cons_of_mem _ he))
          (fun e he => hw e (List.mem_cons_of_mem _ he))
          (fun e he => h e (List.mem_cons_of_mem _ he)), fun a ha b hb => ?_⟩
      rw [fixturesOfEntries_eq_flatMap, List.mem_flatMap] at hb
      obtain ⟨⟨name', t'⟩, he', hb⟩ := hb
      obtain ⟨xs, hxs⟩ := components_of_mem_fixturesOfEntry c (hw _ List.mem_cons_self)
        (hp _ List.mem_cons_self) ha
      obtain ⟨ys, hys⟩ := components_of_mem_fixturesOfEntry c
        (hw _ (List.mem_cons_of_mem _ he')) (hp _ (List.mem_cons_of_mem _ he')) hb
      exact comparePaths_lt_of_name_lt hxs hys (hlt _ he')

theorem fixturesOfEntry_sorted {t : Tree} (hw : t.WellFormed) (shown name : String) :
    (fixturesOfEntry shown (name, t)).Pairwise fun p q => comparePaths c p q = .lt := by
  induction hw generalizing shown name with
  | file bytes =>
    rw [fixturesOfEntry]
    split
    · exact List.pairwise_singleton _ _
    · exact List.Pairwise.nil
  | dir sorted plain sub ih =>
    rw [fixturesOfEntry]
    exact fixturesOfEntries_sorted_of c sorted plain sub (fun e he shown => ih e he shown e.1) _

/-- The files found in a well-formed directory are strictly increasing in the component
    order, with or without a continued base. -/
theorem fixturesOfEntries_sorted {entries : List (String × Tree)}
    (hw : (Tree.dir entries).WellFormed) (shown : String) :
    (fixturesOfEntries shown entries).Pairwise fun p q => comparePaths c p q = .lt := by
  cases hw with
  | dir sorted plain sub =>
    exact fixturesOfEntries_sorted_of c sorted plain sub
      (fun e he shown => fixturesOfEntry_sorted c (sub e he) shown e.1) shown

/-! ### Roots -/

theorem discoverFixtures_sorted {t : Tree} (hw : t.WellFormed) (root : String) :
    (discoverFixtures t root).Pairwise fun p q => comparePaths c p q = .lt := by
  unfold discoverFixtures
  split
  · exact List.pairwise_singleton _ _
  · next entries h => exact fixturesOfEntries_sorted c (hw.of_lookup h) root
  · exact List.Pairwise.nil

/-- Every path found for a root names a file of the tree. -/
theorem lookup_of_mem_discoverFixtures {t : Tree} (hw : t.WellFormed) {root p : String}
    (hp : p ∈ discoverFixtures t root) : ∃ bytes, t.lookup p = some (.file bytes) := by
  unfold discoverFixtures at hp
  split at hp
  · next bytes h =>
    obtain rfl := List.mem_singleton.1 hp
    exact ⟨bytes, h⟩
  · next entries h =>
    have hd := hw.of_lookup h
    obtain ⟨names, hf, -, rfl⟩ := (mem_fixturesOfEntries hd root p).1 hp
    exact lookup_foldl_join hd h hf
  · exact absurd hp List.not_mem_nil

/-- Discovery, root by root and for several roots at once: a file is found as itself, a
    missing root finds nothing, and a directory finds each file below it whose name has the
    extension `toml`, as the directory joined with the names leading to it; every path found
    names a file of the tree, and the paths of one root are strictly increasing in the
    component order. Several roots find the paths their roots find, sorted strictly
    increasing, one for each path any root finds. -/
theorem discovery_finds_fixtures_in_order (t : Tree) (hw : t.WellFormed) :
    (∀ root bytes, t.lookup root = some (.file bytes) → discoverFixtures t root = [root]) ∧
    (∀ root, t.lookup root = none → discoverFixtures t root = []) ∧
    (∀ root entries, t.lookup root = some (.dir entries) → ∀ p,
      p ∈ discoverFixtures t root ↔ ∃ names, (Tree.dir entries).FileAt names ∧
        names.getLast?.bind extension? = some "toml" ∧ p = names.foldl join root) ∧
    (∀ root, ∀ p ∈ discoverFixtures t root, ∃ bytes, t.lookup p = some (.file bytes)) ∧
    (∀ root, (discoverFixtures t root).Pairwise fun p q => comparePaths c p q = .lt) ∧
    ∀ roots, (discoverAll c t roots).Pairwise (fun p q => comparePaths c p q = .lt) ∧
      (∀ p ∈ discoverAll c t roots, ∃ root ∈ roots, p ∈ discoverFixtures t root) ∧
      ∀ root ∈ roots, ∀ p ∈ discoverFixtures t root,
        ∃ q ∈ discoverAll c t roots, comparePaths c q p = .eq := by
  refine ⟨fun root bytes h => ?_, fun root h => ?_, fun root entries h p => ?_,
    fun root p hp => lookup_of_mem_discoverFixtures hw hp, discoverFixtures_sorted c hw,
    fun roots => ⟨sortPaths_sorted _, fun p hp => ?_, fun root hr p hp => ?_⟩⟩
  · rw [discoverFixtures, h]
  · rw [discoverFixtures, h]
  · rw [discoverFixtures, h]
    exact mem_fixturesOfEntries (hw.of_lookup h) root p
  · exact List.mem_flatMap.1 (mem_sortPaths hp)
  · exact exists_eq_sortPaths (List.mem_flatMap.2 ⟨root, hr, hp⟩)

/-- A suite holding a directory `a`, a directory `a-b`, the fixture `a.toml` and a file
    `notes.md`, gathered file by file as the program gathers them. -/
def sampleTree : Tree :=
  (((Tree.empty.addFile "suite/a/x.toml" .empty).addFile "suite/a-b/y.toml" .empty).addFile
    "suite/a.toml" .empty).addFile "suite/notes.md" .empty

theorem sampleTree_wellFormed : sampleTree.WellFormed :=
  (((wellFormed_empty.addFile _ _).addFile _ _).addFile _ _).addFile _ _

theorem sampleTree_fixtures_in_order :
    (discoverFixtures sampleTree "suite").Pairwise fun p q => comparePaths false p q = .lt :=
  (discovery_finds_fixtures_in_order false sampleTree sampleTree_wellFormed).2.2.2.2.1 "suite"

example : discoverFixtures sampleTree "suite" =
    ["suite/a/x.toml", "suite/a-b/y.toml", "suite/a.toml"] := by decide +kernel

end ReflectCheck.Fixture
