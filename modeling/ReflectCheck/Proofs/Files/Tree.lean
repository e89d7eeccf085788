import ReflectCheck.Files.Tree
import ReflectCheck.Proofs.Files.Order

/-!
# Trees as a file system holds them

A file system gives every entry of a directory a plain name, different from the others, and
lists the entries in name order. A tree with that shape in every directory is well-formed
(`Files.Tree.WellFormed`); every tree the program builds is, since it starts from an empty
directory and adds files and directories at the named components of paths
(`Files.Tree.WellFormed.addFile`, `Files.Tree.WellFormed.addDir`).

In a well-formed tree a walk reaches only well-formed entries (`Files.Tree.WellFormed.of_walk`),
and a path that names a directory, joined with the name of one of its entries, names that
entry (`Files.Tree.lookup_join`), whatever the path ends with. So the names leading from a
directory down to a file (`Files.Tree.FileAt`), joined to a path naming the directory, name
the file (`Files.Tree.lookup_foldl_join`).
-/

namespace ReflectCheck.Files.Tree

/-! ### Well-formed trees -/

/-- In every directory of the tree the names are plain and strictly increasing: each names
    one entry, and a walk meets them in name order. -/
inductive WellFormed : Tree → Prop
  | file (bytes : ByteArray) : WellFormed (.file bytes)
  | dir {entries : List (String × Tree)}
      (sorted : entries.Pairwise fun a b => a.1 < b.1)
      (plain : ∀ e ∈ entries, PlainName e.1)
      (sub : ∀ e ∈ entries, WellFormed e.2) : WellFormed (.dir entries)

theorem wellFormed_empty : Tree.empty.WellFormed :=
  .dir List.Pairwise.nil (fun _ he => absurd he List.not_mem_nil)
    (fun _ he => absurd he List.not_mem_nil)

/-- `names` lead from an entry of a tree down to a file, one directory entry at a time. -/
inductive FileAt : Tree → List String → Prop
  | file (bytes : ByteArray) : FileAt (.file bytes) []
  | entry {entries : List (String × Tree)} {name : String} {t : Tree} {names : List String} :
      (name, t) ∈ entries → FileAt t names → FileAt (.dir entries) (name :: names)

theorem fileAt_file_iff {bytes : ByteArray} {names : List String} :
    (Tree.file bytes).FileAt names ↔ names = [] := by
  constructor
  · rintro ⟨⟩
    rfl
  · rintro rfl
    exact .file bytes

theorem fileAt_dir_iff {entries : List (String × Tree)} {names : List String} :
    (Tree.dir entries).FileAt names ↔
      ∃ e ∈ entries, ∃ rest, names = e.1 :: rest ∧ e.2.FileAt rest := by
  constructor
  · intro h
    cases h with
    | entry he hf => exact ⟨_, he, _, rfl, hf⟩
  · rintro ⟨⟨name, t⟩, he, rest, rfl, hf⟩
    exact .entry he hf

/-- A file below a directory is not the directory itself: its names end in its own name. -/
theorem getLast?_cons_of_fileAt_dir {entries : List (String × Tree)} {names : List String}
    (hf : (Tree.dir entries).FileAt names) (name : String) :
    (name :: names).getLast? = names.getLast? := by
  obtain ⟨e, -, rest, rfl, -⟩ := fileAt_dir_iff.1 hf
  exact List.getLast?_cons_cons

/-- The names leading to a file of a well-formed tree are plain. -/
theorem WellFormed.plain_of_fileAt {t : Tree} {names : List String} (hw : t.WellFormed)
    (hf : t.FileAt names) : ∀ n ∈ names, PlainName n := by
  induction hf with
  | file => simp
  | entry he _ ih =>
    cases hw with
    | dir _ plain sub =>
      intro n hn
      rcases List.mem_cons.1 hn with rfl | hn
      · exact plain _ he
      · exact ih (sub _ he) n hn

/-- In a directory with strictly increasing names, looking a name up finds its entry. -/
theorem find?_of_mem {entries : List (String × Tree)}
    (hs : entries.Pairwise fun a b => a.1 < b.1) {name : String} {t : Tree}
    (he : (name, t) ∈ entries) : entries.find? (·.1 = name) = some (name, t) := by
  induction entries with
  | nil => cases he
  | cons e rest ih =>
    cases hs with
    | cons hlt hrest =>
      rcases List.mem_cons.1 he with rfl | he
      · exact List.find?_cons_of_pos (decide_eq_true rfl)
      · have hne : e.1 ≠ name := String.ne_of_lt (hlt _ he)
        rw [List.find?_cons_of_neg (by simpa using hne), ih hrest he]

/-! ### Trees the program builds -/

/-- The names a path resolves to are named components of it. -/
theorem mem_foldl_resolve {cs : List Component} {acc : List String} {n : String}
    (h : n ∈ cs.foldl (fun acc c => match c with
      | .normal n => n :: acc
      | .parent => acc.drop 1
      | _ => acc) acc) : n ∈ acc ∨ Component.normal n ∈ cs := by
  induction cs generalizing acc with
  | nil => exact Or.inl h
  | cons c cs ih =>
    rcases ih h with h | h
    · cases c with
      | normal m =>
        rcases List.mem_cons.1 h with rfl | h
        · exact Or.inr List.mem_cons_self
        · exact Or.inl h
      | parent => exact Or.inl (List.mem_of_mem_drop h)
      | root => exact Or.inl h
      | current => exact Or.inl h
    · exact Or.inr (List.mem_cons_of_mem c h)

theorem mem_resolveNames {cs : List Component} {n : String} (h : n ∈ resolveNames cs) :
    Component.normal n ∈ cs :=
  (mem_foldl_resolve (List.mem_reverse.1 h)).resolve_left List.not_mem_nil

/-- Putting an entry under a name replaces the entry of that name or adds one. -/
theorem mem_upsert {name : String} {f : Option Tree → Tree} {entries : List (String × Tree)}
    {e : String × Tree} (h : e ∈ upsert name f entries) :
    e ∈ entries ∨
      ∃ old, e = (name, f old) ∧ ∀ t, old = some t → (name, t) ∈ entries := by
  fun_induction upsert name f entries with
  | case1 =>
    exact Or.inr ⟨none, List.mem_singleton.1 h, fun t ht => nomatch ht⟩
  | case2 t rest =>
    rcases List.mem_cons.1 h with rfl | h
    · exact Or.inr ⟨some t, rfl, fun t' ht' => by cases ht'; exact List.mem_cons_self⟩
    · exact Or.inl (List.mem_cons_of_mem _ h)
  | case3 n t rest hn hlt =>
    rcases List.mem_cons.1 h with rfl | h
    · exact Or.inr ⟨none, rfl, fun t ht => nomatch ht⟩
    · exact Or.inl h
  | case4 n t rest hn hlt ih =>
    rcases List.mem_cons.1 h with rfl | h
    · exact Or.inl List.mem_cons_self
    · rcases ih h with h | ⟨old, rfl, hold⟩
      · exact Or.inl (List.mem_cons_of_mem _ h)
      · exact Or.inr ⟨old, rfl, fun t' ht' => List.mem_cons_of_mem _ (hold t' ht')⟩

theorem fst_of_mem_upsert {name : String} {f : Option Tree → Tree}
    {entries : List (String × Tree)} {e : String × Tree} (h : e ∈ upsert name f entries) :
    e.1 = name ∨ ∃ e' ∈ entries, e'.1 = e.1 := by
  rcases mem_upsert h with h | ⟨old, rfl, -⟩
  · exact Or.inr ⟨e, h, rfl⟩
  · exact Or.inl rfl

/-- Putting an entry keeps the names of a directory strictly increasing. -/
theorem upsert_sorted (name : String) (f : Option Tree → Tree) {entries : List (String × Tree)}
    (hs : entries.Pairwise fun a b => a.1 < b.1) :
    (upsert name f entries).Pairwise fun a b => a.1 < b.1 := by
  fun_induction upsert name f entries with
  | case1 => exact List.pairwise_singleton _ _
  | case2 t rest =>
    exact List.Pairwise.cons (fun e he => List.rel_of_pairwise_cons hs he) hs.of_cons
  | case3 n t rest hn hlt =>
    refine List.Pairwise.cons (fun e he => ?_) hs
    rcases List.mem_cons.1 he with rfl | he
    · exact hlt
    · exact String.lt_trans hlt (List.rel_of_pairwise_cons hs he)
  | case4 n t rest hn hlt ih =>
    have hgt : n < name := Decidable.byContradiction fun hge =>
      hn (String.le_antisymm (String.not_lt.1 hlt) (String.not_lt.1 hge))
    refine List.Pairwise.cons (fun e he => ?_) (ih hs.of_cons)
    rcases fst_of_mem_upsert he with he | ⟨e', he', hfst⟩
    · rw [he]
      exact hgt
    · rw [← hfst]
      exact List.rel_of_pairwise_cons hs he'

/-- Putting a well-formed entry at plain names keeps a tree well-formed. -/
theorem WellFormed.put {names : List String} (hn : ∀ n ∈ names, PlainName n) {new : Tree}
    (hnew : new.WellFormed) {t : Tree} (ht : t.WellFormed) :
    (Tree.put names new t).WellFormed := by
  -- on the names; a file on the way is replaced by a directory, a missing entry by an empty one
  induction names generalizing t with
  | nil => exact hnew
  | cons name rest ih =>
    have hname := hn name List.mem_cons_self
    have ih : ∀ {t : Tree}, t.WellFormed → (Tree.put rest new t).WellFormed :=
      ih fun n h => hn n (List.mem_cons_of_mem _ h)
    cases ht with
    | file bytes =>
      rw [Tree.put]
      refine .dir (List.pairwise_singleton _ _) (fun e he => ?_) (fun e he => ?_)
      · rw [List.mem_singleton.1 he]
        exact hname
      · rw [List.mem_singleton.1 he]
        exact ih wellFormed_empty
    | dir sorted plain sub =>
      rw [Tree.put]
      refine .dir (upsert_sorted _ _ sorted) (fun e he => ?_) (fun e he => ?_)
      · rcases fst_of_mem_upsert he with he | ⟨e', he', hfst⟩
        · rw [he]
          exact hname
        · rw [← hfst]
          exact plain e' he'
      · rcases mem_upsert he with he | ⟨old, rfl, hold⟩
        · exact sub e he
        · apply ih
          cases old with
          | none => exact wellFormed_empty
          | some t => exact sub _ (hold t rfl)

theorem plainName_of_mem_resolveNames {c : Bool} {p n : String}
    (h : n ∈ resolveNames (components c p)) : PlainName n :=
  plainName_of_normal_mem_components (mem_resolveNames h)

/-- Adding a file keeps a tree well-formed. -/
theorem WellFormed.addFile {t : Tree} (hw : t.WellFormed) (p : String) (bytes : ByteArray) :
    (t.addFile p bytes).WellFormed :=
  WellFormed.put (fun _ hn => plainName_of_mem_resolveNames hn) (.file bytes) hw

/-- Adding a directory keeps a tree well-formed. -/
theorem WellFormed.addDir {t : Tree} (hw : t.WellFormed) (p : String) :
    (t.addDir p).WellFormed := by
  unfold Tree.addDir
  dsimp only
  split
  · exact hw
  · exact WellFormed.put (fun _ hn => plainName_of_mem_resolveNames hn) wellFormed_empty hw

/-! ### Walking paths -/

/-- A walk through a well-formed tree reaches only well-formed entries. -/
theorem WellFormed.of_walk {top : Tree} (htop : top.WellFormed) {cs : List Component}
    {up : List Tree} {t r : Tree} (hup : ∀ u ∈ up, u.WellFormed) (ht : t.WellFormed)
    (h : walk top cs up t = .ok r) : r.WellFormed := by
  -- the invariant: the top, every directory above and the entry reached are well-formed
  fun_induction walk top cs up t with
  | case1 => cases h; exact ht
  | case2 => cases h
  | case3 rest up entries ih => exact ih (fun _ hu => absurd hu List.not_mem_nil) htop h
  | case4 rest up entries ih => exact ih hup ht h
  | case5 => cases h
  | case6 rest entries parent above ih =>
    exact ih (fun u hu => hup u (List.mem_cons_of_mem _ hu)) (hup parent List.mem_cons_self) h
  | case7 name rest up entries found t hfound ih =>
    cases ht with
    | dir sorted plain sub =>
      refine ih (fun u hu => ?_) (sub _ (List.mem_of_find?_eq_some hfound)) h
      rcases List.mem_cons.1 hu with rfl | hu
      · exact .dir sorted plain sub
      · exact hup u hu
  | case8 => cases h

theorem lookup_eq_some_iff {t r : Tree} {p : String} :
    t.lookup p = some r ↔ walk t (steps p) [] t = .ok r := by
  unfold lookup locate
  cases walk t (steps p) [] t with
  | error e => exact ⟨nofun, nofun⟩
  | ok r' => exact ⟨fun h => by cases h; rfl, fun h => by cases h; rfl⟩

/-- Every entry a path names in a well-formed tree is well-formed. -/
theorem WellFormed.of_lookup {t r : Tree} {p : String} (hw : t.WellFormed)
    (h : t.lookup p = some r) : r.WellFormed :=
  hw.of_walk (fun _ hu => absurd hu List.not_mem_nil) hw (lookup_eq_some_iff.1 h)

/-- A `.` at the end of a walk that reaches something reached it before the `.` too. -/
theorem walk_append_current {top : Tree} {cs : List Component} {up : List Tree} {t r : Tree}
    (h : walk top (cs ++ [.current]) up t = .ok r) : walk top cs up t = .ok r := by
  fun_induction walk top cs up t with
  | case1 up t =>
    cases t with
    | file bytes => cases h
    | dir entries => exact h
  | case2 => cases h
  | case3 rest up entries ih => exact ih h
  | case4 rest up entries ih => exact ih h
  | case5 => cases h
  | case6 rest entries parent above ih => exact ih h
  | case7 name rest up entries found t hfound ih =>
    rw [List.cons_append, walk, hfound] at h
    exact ih h
  | case8 name rest up entries hfound =>
    rw [List.cons_append, walk, hfound] at h
    cases h

/-- A walk that reaches a directory goes on into the entry a name finds there. -/
theorem walk_append_normal {top : Tree} {cs : List Component} {up : List Tree} {t : Tree}
    {entries : List (String × Tree)} {name found : String} {u : Tree}
    (h : walk top cs up t = .ok (.dir entries))
    (hfound : entries.find? (·.1 = name) = some (found, u)) :
    walk top (cs ++ [.normal name]) up t = .ok u := by
  fun_induction walk top cs up t with
  | case1 up t =>
    cases h
    rw [List.nil_append, walk, hfound]
    rfl
  | case2 => cases h
  | case3 rest up entries ih => exact ih h
  | case4 rest up entries ih => exact ih h
  | case5 => cases h
  | case6 rest entries parent above ih => exact ih h
  | case7 name rest up entries found t hfound ih =>
    rw [List.cons_append, walk, hfound]
    exact ih h
  | case8 => cases h

/-- The step the part at index `i` of a path split at its slashes gives. -/
def stepOf : String × Nat → Component
  | (part, i) =>
    if part = "" then (if i = 0 then Component.root else Component.current)
    else if part = "." then Component.current
    else if part = ".." then Component.parent
    else Component.normal part

theorem steps_eq (p : String) :
    steps p =
      if p = "" then [] else ((p.toList.splitOn '/').map String.ofList).zipIdx.map stepOf :=
  rfl

theorem stepOf_of_plainName {n : String} (hn : PlainName n) (i : Nat) :
    stepOf (n, i) = .normal n := by
  obtain ⟨hne, -, hdot, hdotdot⟩ := hn
  simp only [stepOf, if_neg hne, if_neg hdot, if_neg hdotdot]

theorem zipIdx_map_append_singleton (P : List String) (x : String) :
    (P ++ [x]).zipIdx.map stepOf = P.zipIdx.map stepOf ++ [stepOf (x, P.length)] := by
  simp [List.zipIdx_append]

/-- Joining a plain name makes its step the last one, in place of the `.` a trailing slash
    gives. -/
theorem steps_join (base : String) {n : String} (hn : PlainName n) :
    ∃ S, (steps base = S ∨ steps base = S ++ [.current]) ∧
      steps (join base n) = S ++ [.normal n] := by
  obtain ⟨P, hbase, hj⟩ := splitOn_join base hn
  have hjne : join base n ≠ "" := by
    intro h
    rw [h, String.toList_empty, List.splitOn_nil] at hj
    -- the last part would be the name, yet the empty path has only an empty part
    have hlast := congrArg List.getLast? hj
    rw [List.getLast?_concat] at hlast
    exact hn.1 (String.toList_eq_nil_iff.1 (Option.some.inj hlast).symm)
  refine ⟨(P.map String.ofList).zipIdx.map stepOf, ?_, ?_⟩
  · rcases hbase with hb | ⟨hne, hb⟩
    · cases P with
      | nil =>
        -- only the empty path splits into one empty part
        have : base = "" := String.toList_eq_nil_iff.1 <| calc
          base.toList = ['/'].intercalate (base.toList.splitOn '/') :=
            (List.intercalate_splitOn '/').symm
          _ = [] := by rw [hb]; rfl
        left
        rw [this]
        rfl
      | cons q P =>
        -- a trailing slash: its empty last part, not the first, is a `.`
        have hne : base ≠ "" := by
          intro h
          rw [h, String.toList_empty, List.splitOn_nil] at hb
          simp at hb
        right
        rw [steps_eq, if_neg hne, hb, List.map_append, List.map_singleton, String.ofList_nil,
          zipIdx_map_append_singleton]
        simp [stepOf]
    · left
      rw [steps_eq, if_neg hne, hb]
  · rw [steps_eq, if_neg hjne, hj, List.map_append, List.map_singleton, String.ofList_toList,
      zipIdx_map_append_singleton, stepOf_of_plainName hn]

/-- A path naming a directory, joined with the name of one of its entries, names that entry. -/
theorem lookup_join {t : Tree} {base name : String} {entries : List (String × Tree)} {u : Tree}
    (hl : t.lookup base = some (.dir entries)) (hs : entries.Pairwise fun a b => a.1 < b.1)
    (hn : PlainName name) (he : (name, u) ∈ entries) : t.lookup (join base name) = some u := by
  obtain ⟨S, hS, hj⟩ := steps_join base hn
  have hwalk : walk t S [] t = .ok (.dir entries) := by
    rcases hS with hS | hS
    · rw [← hS]
      exact lookup_eq_some_iff.1 hl
    · exact walk_append_current (hS ▸ lookup_eq_some_iff.1 hl)
  rw [lookup_eq_some_iff, hj]
  exact walk_append_normal hwalk (find?_of_mem hs he)

/-- The names leading to a file below a path, joined to the path one by one, name that file. -/
theorem lookup_foldl_join {t d : Tree} {root : String} {names : List String}
    (hd : d.WellFormed) (hl : t.lookup root = some d) (hf : d.FileAt names) :
    ∃ bytes, t.lookup (names.foldl join root) = some (.file bytes) := by
  induction hf generalizing root with
  | file bytes => exact ⟨bytes, hl⟩
  | entry he _ ih =>
    cases hd with
    | dir sorted plain sub =>
      exact ih (sub _ he) (lookup_join hl sorted (plain _ he) he)

end ReflectCheck.Files.Tree
