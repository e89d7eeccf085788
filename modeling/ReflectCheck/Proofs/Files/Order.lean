import ReflectCheck.Files.Path

/-!
# The component order on paths

Paths are compared by their components, the first difference deciding (`comparePaths`). That
comparison is the lexicographic order of `List.compareLex` over the order of components, so it
is a total preorder whose equal paths are those with the same components
(`Files.transCmp_comparePaths`, `Files.comparePaths_eq_eq_iff`).

Joining a path with a plain name (not empty, without a slash, neither `.` nor `..`) appends
one named component, whatever the path ends with (`Files.components_join`), and the named
components of any path are plain (`Files.plainName_of_normal_mem_components`). Hence paths built
from one base by joining names are ordered by their first differing name, and a path built
through a name comes before every path built through a greater name, whatever follows it
(`Files.comparePaths_lt_of_name_lt`): `a/b.toml` before `a b.toml`.

Sorting inserts paths one by one (`sortPaths`); the result is strictly increasing, holds
only paths it was given, and holds the same path as each of them
(`Files.sortPaths_sorted`, `Files.mem_sortPaths`, `Files.exists_eq_sortPaths`).
-/

namespace ReflectCheck.Files

open Std

/-! ### Comparing components -/

namespace Component

/-- The name of a named component, empty for the others. -/
def name : Component → String
  | .normal n => n
  | _ => ""

/-- Components compare by kind, then named ones by name. -/
theorem compare_eq_compareLex :
    Component.compare = compareLex (compareOn rank) (compareOn name) := by
  funext a b
  cases a <;> cases b <;> rfl

instance : TransCmp Component.compare := compare_eq_compareLex ▸ inferInstance

theorem eq_of_rank_name {a b : Component} (hr : a.rank = b.rank) (hn : a.name = b.name) :
    a = b := by
  cases a <;> cases b <;> simp_all [rank, name]

instance : LawfulEqCmp Component.compare where
  eq_of_compare {a b} h := by
    rw [compare_eq_compareLex, compareLex_eq_eq] at h
    exact eq_of_rank_name (LawfulEqOrd.eq_of_compare h.1) (LawfulEqOrd.eq_of_compare h.2)

theorem compare_self (a : Component) : a.compare a = .eq :=
  LawfulEqCmp.compare_eq_iff_eq.2 rfl

theorem compare_normal_lt {a b : String} (h : a < b) :
    Component.compare (.normal a) (.normal b) = .lt :=
  compareOfLessAndEq_eq_lt.2 h

end Component

theorem compareComponents_eq : compareComponents = List.compareLex Component.compare := by
  funext xs ys
  induction xs generalizing ys with
  | nil => cases ys <;> rfl
  | cons a as ih =>
    cases ys with
    | nil => rfl
    | cons b bs =>
      rw [compareComponents, List.compareLex, ih]
      cases a.compare b <;> rfl

theorem comparePaths_eq (c : Bool) (p q : String) :
    comparePaths c p q = List.compareLex Component.compare (components c p) (components c q) := by
  rw [comparePaths, compareComponents_eq]

/-- Paths under the component order form a total preorder. -/
instance transCmp_comparePaths (c : Bool) : TransCmp (comparePaths c) where
  eq_swap {p q} := by
    simp only [comparePaths_eq]
    exact OrientedCmp.eq_swap
  isLE_trans {p q r} := by
    simp only [comparePaths_eq]
    exact TransCmp.isLE_trans

/-- Two paths are the same path when they have the same components. -/
theorem comparePaths_eq_eq_iff {c : Bool} {p q : String} :
    comparePaths c p q = .eq ↔ components c p = components c q := by
  rw [comparePaths_eq]
  exact LawfulEqCmp.compare_eq_iff_eq

theorem comparePaths_self (c : Bool) (p : String) : comparePaths c p p = .eq :=
  comparePaths_eq_eq_iff.2 rfl

theorem compareComponents_append_left (L xs ys : List Component) :
    compareComponents (L ++ xs) (L ++ ys) = compareComponents xs ys := by
  induction L with
  | nil => rfl
  | cons a L ih =>
    rw [List.cons_append, List.cons_append, compareComponents, a.compare_self, ih]

/-- After a common start, a smaller name decides, whatever follows either. -/
theorem comparePaths_lt_of_name_lt {c : Bool} {p q : String} {L xs ys : List Component}
    {a b : String} (hp : components c p = L ++ .normal a :: xs)
    (hq : components c q = L ++ .normal b :: ys) (h : a < b) : comparePaths c p q = .lt := by
  rw [comparePaths, hp, hq, compareComponents_append_left, compareComponents,
    Component.compare_normal_lt h]

/-! ### Joining names -/

/-- A name an entry of a directory can have: not empty, without a slash, and neither `.`
    nor `..`. -/
def PlainName (n : String) : Prop := n ≠ "" ∧ '/' ∉ n.toList ∧ n ≠ "." ∧ n ≠ ".."

instance : DecidablePred PlainName := fun n =>
  inferInstanceAs (Decidable (n ≠ "" ∧ '/' ∉ n.toList ∧ n ≠ "." ∧ n ≠ ".."))

/-- What the part at index `i` of a path split at its slashes gives. -/
def partComponent (absolute continued : Bool) : String × Nat → Option Component
  | (part, i) =>
    if part = "" then none
    else if part = "." then
      if i = 0 && !absolute && !continued then some Component.current else none
    else if part = ".." then some Component.parent
    else some (Component.normal part)

theorem components_eq (c : Bool) (p : String) :
    components c p =
      let absolute := p.toList.head? == some '/'
      let named := ((p.toList.splitOn '/').map String.ofList).zipIdx.filterMap
        (partComponent absolute c)
      if absolute then .root :: named else named := rfl

/-- The components of a path whose text starts with `h` and splits at slashes into `P`. -/
theorem components_of_split (c : Bool) {p : String} {h : Option Char} {P : List (List Char)}
    (hh : p.toList.head? = h) (hs : p.toList.splitOn '/' = P) :
    components c p =
      if h == some '/' then
        .root :: (P.map String.ofList).zipIdx.filterMap (partComponent (h == some '/') c)
      else (P.map String.ofList).zipIdx.filterMap (partComponent (h == some '/') c) := by
  rw [components_eq, hh, hs]

theorem filterMap_zipIdx_append_singleton (abs c : Bool) (P : List String) (x : String) :
    (P ++ [x]).zipIdx.filterMap (partComponent abs c) =
      P.zipIdx.filterMap (partComponent abs c) ++ (partComponent abs c (x, P.length)).toList := by
  rw [List.zipIdx_append, List.filterMap_append]
  cases h : partComponent abs c (x, P.length) <;> simp [h]

theorem partComponent_empty (abs c : Bool) (i : Nat) : partComponent abs c ("", i) = none := rfl

theorem PlainName.partComponent_eq {n : String} (hn : PlainName n) (abs c : Bool) (i : Nat) :
    partComponent abs c (n, i) = some (.normal n) := by
  obtain ⟨hne, -, hdot, hdotdot⟩ := hn
  simp only [partComponent, if_neg hne, if_neg hdot, if_neg hdotdot]

/-- Only a plain part gives a named component. -/
theorem partComponent_eq_normal {abs c : Bool} {part n : String} {i : Nat}
    (h : partComponent abs c (part, i) = some (.normal n)) :
    n = part ∧ part ≠ "" ∧ part ≠ "." ∧ part ≠ ".." := by
  simp only [partComponent] at h
  split at h
  · cases h
  · split at h
    · split at h <;> cases h
    · split at h
      · cases h
      · next h1 h2 h3 =>
        cases h
        exact ⟨rfl, h1, h2, h3⟩

/-- The pieces of a list split at a separator do not hold it. -/
theorem not_mem_of_mem_splitOn {a : Char} {xs l : List Char} (h : l ∈ xs.splitOn a) :
    a ∉ l := by
  induction xs generalizing l with
  | nil =>
    rw [List.splitOn_nil, List.mem_singleton] at h
    rw [h]
    exact List.not_mem_nil
  | cons x xs ih =>
    rw [List.splitOn_cons_eq_if_modifyHead] at h
    obtain ⟨s, ss, hs⟩ := List.exists_cons_of_ne_nil (List.splitOn_ne_nil a xs)
    split at h
    · rcases List.mem_cons.1 h with rfl | h
      · exact List.not_mem_nil
      · exact ih h
    · next hx =>
      rw [hs, List.modifyHead_cons] at h
      rcases List.mem_cons.1 h with rfl | h
      · rintro (_ | ⟨_, hs'⟩)
        · exact hx (beq_self_eq_true a)
        · exact ih (hs ▸ List.mem_cons_self) hs'
      · exact ih (hs ▸ List.mem_cons_of_mem s h)

/-- A named component of a path is a plain name. -/
theorem plainName_of_normal_mem_components {c : Bool} {p n : String}
    (h : Component.normal n ∈ components c p) : PlainName n := by
  rw [components_of_split c rfl rfl] at h
  -- past the root of an absolute path, the components are those of the parts
  have hnamed : Component.normal n ∈
      ((p.toList.splitOn '/').map String.ofList).zipIdx.filterMap
        (partComponent (p.toList.head? == some '/') c) := by
    split at h
    · exact (List.mem_cons.1 h).resolve_left nofun
    · exact h
  obtain ⟨⟨part, i⟩, hmem, hpart⟩ := List.mem_filterMap.1 hnamed
  have hsplit : part ∈ (p.toList.splitOn '/').map String.ofList :=
    List.fst_mem_of_mem_zipIdx hmem
  obtain ⟨l, hl, rfl⟩ := List.mem_map.1 hsplit
  obtain ⟨rfl, hne, hdot, hdotdot⟩ := partComponent_eq_normal hpart
  exact ⟨hne, by simpa using not_mem_of_mem_splitOn hl, hdot, hdotdot⟩

/-- How a path joined with a plain name splits at its slashes: as the path, with the name in
    place of the empty part that ends the empty path or a trailing slash, or after the parts
    of any other path. -/
theorem splitOn_join (base : String) {n : String} (hn : PlainName n) :
    ∃ P, (base.toList.splitOn '/' = P ++ [[]] ∨ base ≠ "" ∧ base.toList.splitOn '/' = P) ∧
      (join base n).toList.splitOn '/' = P ++ [n.toList] := by
  have hsplit : n.toList.splitOn '/' = [n.toList] := List.splitOn_eq_singleton hn.2.1
  unfold join
  split
  next h =>
    rcases Bool.or_eq_true_iff.1 h with hempty | hslash
    · obtain rfl : base = "" := of_decide_eq_true hempty
      refine ⟨[], Or.inl ?_, ?_⟩
      · rw [String.toList_empty, List.splitOn_nil]
        rfl
      · rw [String.empty_append, hsplit]
        rfl
    · obtain ⟨xs, hxs⟩ := List.getLast?_eq_some_iff.1 (beq_iff_eq.1 hslash)
      refine ⟨xs.splitOn '/', Or.inl ?_, ?_⟩
      · rw [hxs, List.splitOn_append_cons_self, List.splitOn_nil]
      · rw [String.toList_append, hxs, List.append_assoc, List.singleton_append,
          List.splitOn_append_cons_self, hsplit]
  next h =>
    have hne : base ≠ "" := fun h' => by simp [h'] at h
    refine ⟨base.toList.splitOn '/', Or.inr ⟨hne, rfl⟩, ?_⟩
    rw [show (base ++ "/" ++ n).toList = base.toList ++ '/' :: n.toList by simp,
      List.splitOn_append_cons_self, hsplit]

/-- A joined path is absolute when the path is: a plain name does not start with a slash. -/
theorem absolute_join (base : String) {n : String} (hn : PlainName n) :
    ((join base n).toList.head? == some '/') = (base.toList.head? == some '/') := by
  by_cases hb : base = ""
  · have hn' : (n.toList.head? == some '/') = false :=
      beq_eq_false_iff_ne.2 fun h => hn.2.1 (List.mem_of_mem_head? h)
    subst hb
    rw [show join "" n = n by simp [join], hn', String.toList_empty]
    rfl
  · -- the path's first character stays first
    obtain ⟨x, xs, hx⟩ := List.exists_cons_of_ne_nil fun h => hb (String.toList_eq_nil_iff.1 h)
    have hj : ∃ rest, (join base n).toList = base.toList ++ rest := by
      unfold join
      split
      · exact ⟨n.toList, String.toList_append⟩
      · exact ⟨'/' :: n.toList, by simp⟩
    obtain ⟨rest, hrest⟩ := hj
    rw [hrest, hx]
    rfl

/-- Joining a plain name appends its component, whether the path is empty, ends with a slash
    or does not. -/
theorem components_join (c : Bool) (base : String) {n : String} (hn : PlainName n) :
    components c (join base n) = components c base ++ [.normal n] := by
  obtain ⟨P, hbase, hj⟩ := splitOn_join base hn
  have hparts : (P ++ [n.toList]).map String.ofList = P.map String.ofList ++ [n] := by simp
  rw [components_of_split c rfl hj, absolute_join base hn]
  rcases hbase with hb | ⟨-, hb⟩
  · -- the empty part the name replaces gives no component
    rw [components_of_split c rfl hb]
    simp only [hparts, List.map_append, List.map_singleton, String.ofList_nil,
      filterMap_zipIdx_append_singleton, hn.partComponent_eq, partComponent_empty,
      Option.toList_some, Option.toList_none, List.append_nil]
    split <;> rfl
  · rw [components_of_split c rfl hb]
    simp only [hparts, filterMap_zipIdx_append_singleton, hn.partComponent_eq,
      Option.toList_some]
    split <;> rfl

/-- Joining plain names one by one appends their components. -/
theorem components_foldl_join (c : Bool) (base : String) {names : List String}
    (hn : ∀ n ∈ names, PlainName n) :
    components c (names.foldl join base) = components c base ++ names.map .normal := by
  induction names generalizing base with
  | nil => simp
  | cons n names ih =>
    rw [List.foldl_cons, ih _ fun m hm => hn m (List.mem_cons_of_mem n hm),
      components_join c base (hn n List.mem_cons_self)]
    simp

example : comparePaths false "a/b.toml" "a b.toml" = .lt := by decide +kernel

/-! ### Sorting -/

variable {c : Bool}

theorem mem_insertPath {p x : String} {ps : List String} (hx : x ∈ insertPath c p ps) :
    x = p ∨ x ∈ ps := by
  fun_induction insertPath c p ps with
  | case1 => simpa using hx
  | case2 q rest h => simpa using hx
  | case3 q rest h => exact Or.inr hx
  | case4 q rest h ih =>
    rcases List.mem_cons.1 hx with rfl | hx
    · exact Or.inr List.mem_cons_self
    · exact (ih hx).imp_right (List.mem_cons_of_mem q)

theorem subset_insertPath (p : String) (ps : List String) : ps ⊆ insertPath c p ps := by
  fun_induction insertPath c p ps with
  | case1 => exact List.nil_subset _
  | case2 q rest h => exact List.subset_cons_self _ _
  | case3 q rest h => exact List.Subset.refl _
  | case4 q rest h ih => exact List.cons_subset_cons q ih

/-- A path is inserted, or the same path is there already. -/
theorem exists_eq_insertPath (p : String) (ps : List String) :
    ∃ q ∈ insertPath c p ps, comparePaths c q p = .eq := by
  fun_induction insertPath c p ps with
  | case1 => exact ⟨p, List.mem_singleton_self p, comparePaths_self c p⟩
  | case2 q rest h => exact ⟨p, List.mem_cons_self, comparePaths_self c p⟩
  | case3 q rest h => exact ⟨q, List.mem_cons_self, OrientedCmp.eq_symm h⟩
  | case4 q rest h ih =>
    obtain ⟨r, hr, hrp⟩ := ih
    exact ⟨r, List.mem_cons_of_mem q hr, hrp⟩

/-- Insertion keeps paths strictly increasing. -/
theorem insertPath_sorted (p : String) {ps : List String}
    (hs : ps.Pairwise fun p q => comparePaths c p q = .lt) :
    (insertPath c p ps).Pairwise fun p q => comparePaths c p q = .lt := by
  fun_induction insertPath c p ps with
  | case1 => exact List.pairwise_singleton _ p
  | case2 q rest h =>
    refine List.Pairwise.cons (fun r hr => ?_) hs
    rcases List.mem_cons.1 hr with rfl | hr
    · exact h
    · exact TransCmp.lt_trans h (List.rel_of_pairwise_cons hs hr)
  | case3 q rest h => exact hs
  | case4 q rest h ih =>
    cases hs with
    | cons hq hrest =>
      refine List.Pairwise.cons (fun r hr => ?_) (ih hrest)
      rcases mem_insertPath hr with rfl | hr
      · exact OrientedCmp.lt_of_gt h
      · exact hq r hr

theorem foldl_insertPath_sorted (ps : List String) {acc : List String}
    (hs : acc.Pairwise fun p q => comparePaths c p q = .lt) :
    (ps.foldl (fun acc p => insertPath c p acc) acc).Pairwise
      fun p q => comparePaths c p q = .lt := by
  induction ps generalizing acc with
  | nil => exact hs
  | cons p ps ih => exact ih (insertPath_sorted p hs)

theorem mem_foldl_insertPath {ps acc : List String} {x : String}
    (hx : x ∈ ps.foldl (fun acc p => insertPath c p acc) acc) : x ∈ acc ∨ x ∈ ps := by
  induction ps generalizing acc with
  | nil => exact Or.inl hx
  | cons p ps ih =>
    rcases ih hx with hx | hx
    · rcases mem_insertPath hx with rfl | hx
      · exact Or.inr List.mem_cons_self
      · exact Or.inl hx
    · exact Or.inr (List.mem_cons_of_mem p hx)

/-- Every path inserted, or there at the start, has the same path in the result: a path
    inserted later never removes one. -/
theorem exists_eq_foldl_insertPath {ps acc : List String} {x : String}
    (hx : x ∈ acc ∨ x ∈ ps) :
    ∃ y ∈ ps.foldl (fun acc p => insertPath c p acc) acc, comparePaths c y x = .eq := by
  induction ps generalizing acc x with
  | nil =>
    rcases hx with hx | hx
    · exact ⟨x, hx, comparePaths_self c x⟩
    · exact absurd hx List.not_mem_nil
  | cons p ps ih =>
    rcases hx with hx | hx
    · exact ih (Or.inl (subset_insertPath p acc hx))
    · rcases List.mem_cons.1 hx with rfl | hx
      · obtain ⟨q, hq, hqx⟩ := exists_eq_insertPath (c := c) x acc
        obtain ⟨y, hy, hyq⟩ := ih (Or.inl hq)
        exact ⟨y, hy, TransCmp.eq_trans hyq hqx⟩
      · exact ih (Or.inr hx)

theorem sortPaths_sorted (ps : List String) :
    (sortPaths c ps).Pairwise fun p q => comparePaths c p q = .lt :=
  foldl_insertPath_sorted ps List.Pairwise.nil

theorem mem_sortPaths {ps : List String} {x : String} (hx : x ∈ sortPaths c ps) : x ∈ ps :=
  (mem_foldl_insertPath hx).resolve_left List.not_mem_nil

theorem exists_eq_sortPaths {ps : List String} {x : String} (hx : x ∈ ps) :
    ∃ y ∈ sortPaths c ps, comparePaths c y x = .eq :=
  exists_eq_foldl_insertPath (Or.inr hx)

example : sortPaths true ["b.toml", "a/c.toml", "./b.toml", "a b.toml"] =
    ["a/c.toml", "a b.toml", "b.toml"] := by decide +kernel

end ReflectCheck.Files
