import Mathlib.Data.List.Perm.Basic
import ReflectCheck.Suite

/-!
# Bounded runs place every result, whatever the schedule

What the bounded runner does for every number of jobs and every order in which its tasks
finish (every schedule `pick`):

* it spawns a task for each path exactly once, in the order of the paths
  (`Bounded.spawns_runBounded`);
* its join set never holds more than `max jobs 1` tasks, each join takes a running task,
  and the set ends empty (`Bounded.inFlight_runBounded`, with `Bounded.InFlight`);
* it joins each task exactly once, so it stops after as many joins as there are paths
  (`Bounded.joins_runBounded`);
* the slot of each path holds the result of the work on that path
  (`Bounded.slots_runBounded`).

So a suite's report is that of every file run on its own, in the order given, whatever the
number of jobs and the schedule (`runSuiteWith_eq_ofFiles`); `runBounded_schedule_free`
puts all of it together.

The proofs go through the runner's loop, one refill and one wait at a time:
`Pool.spawnPending_eq` says in closed form what a refill does, `Pool.join_eq_some` what a
wait does, and `Pool.Inv` is what both keep about the slots.
-/

namespace ReflectCheck

namespace Bounded

/-! ### Observing a run -/

namespace Action

/-- The index a spawn is for. -/
def spawned? : Action → Option Nat
  | .spawn index => some index
  | .join _ => none

/-- The index a join is for. -/
def joined? : Action → Option Nat
  | .spawn _ => none
  | .join index => some index

end Action

/-- A trace of actions on a join set that holds `n` tasks at its start: no spawn makes the
    set hold more than `bound` tasks, every join takes a running task, and the set ends
    empty. -/
inductive InFlight (bound : Nat) : Nat → List Action → Prop
  | done : InFlight bound 0 []
  | spawn {n index : Nat} {acts : List Action} : n < bound → InFlight bound (n + 1) acts →
      InFlight bound n (.spawn index :: acts)
  | join {n index : Nat} {acts : List Action} : InFlight bound n acts →
      InFlight bound (n + 1) (.join index :: acts)

/-- Spawns for pending paths, made while the set has room. -/
theorem InFlight.spawns {bound n : Nat} {acts : List Action} (xs : List (Nat × String))
    (hb : n + xs.length ≤ bound) (h : InFlight bound (n + xs.length) acts) :
    InFlight bound n (xs.map (fun x => Action.spawn x.1) ++ acts) := by
  induction xs generalizing n with
  | nil => simpa using h
  | cons x xs ih =>
    simp only [List.length_cons] at hb h
    refine .spawn (by omega) (ih (by omega) ?_)
    rwa [Nat.add_assoc, Nat.add_comm 1]

theorem spawned_map_spawn (xs : List (Nat × String)) :
    (xs.map fun x => Action.spawn x.1).filterMap Action.spawned? = xs.map Prod.fst := by
  induction xs with
  | nil => rfl
  | cons x xs ih =>
    rw [List.map_cons, List.filterMap_cons_some (show Action.spawned? (.spawn x.1) = some x.1 from rfl),
      ih, List.map_cons]

theorem joined_map_spawn (xs : List (Nat × String)) :
    (xs.map fun x => Action.spawn x.1).filterMap Action.joined? = [] := by
  induction xs with
  | nil => rfl
  | cons x xs ih =>
    rw [List.map_cons, List.filterMap_cons_none (show Action.joined? (.spawn x.1) = none from rfl), ih]

variable {α : Type}

/-! ### One refill, one wait -/

namespace Pool

/-- A refill spawns tasks for the first `jobs - tasks.length` pending paths, in order. -/
theorem spawnPending_eq (jobs : Nat) (work : String → α) (slots : List (Option α))
    (tasks : List (Nat × α)) (pending : List (Nat × String)) :
    spawnPending jobs work slots tasks pending =
      (⟨slots, pending.drop (jobs - tasks.length),
          tasks ++ (pending.take (jobs - tasks.length)).map fun x => (x.1, work x.2)⟩,
        (pending.take (jobs - tasks.length)).map fun x => .spawn x.1) := by
  induction pending generalizing tasks with
  | nil => simp [spawnPending]
  | cons x rest ih =>
    obtain ⟨index, path⟩ := x
    unfold spawnPending
    split
    · rename_i hlt
      -- one spawn made, and one place fewer in the set
      obtain ⟨k, hk⟩ : ∃ k, jobs - tasks.length = k + 1 := ⟨jobs - tasks.length - 1, by omega⟩
      have hk' : jobs - (tasks ++ [(index, work path)]).length = k := by
        simp only [List.length_append, List.length_singleton]
        omega
      rw [ih, hk', hk]
      simp
    · rename_i hge
      rw [Nat.sub_eq_zero_of_le (Nat.le_of_not_lt hge)]
      simp

/-- A refill keeps the indices of the running and pending paths, in order. -/
theorem spawnPending_indices (jobs : Nat) (work : String → α) (slots : List (Option α))
    (tasks : List (Nat × α)) (pending : List (Nat × String)) :
    (spawnPending jobs work slots tasks pending).1.tasks.map Prod.fst ++
        (spawnPending jobs work slots tasks pending).1.pending.map Prod.fst =
      tasks.map Prod.fst ++ pending.map Prod.fst := by
  have hfst : (Prod.fst ∘ fun x : Nat × String => (x.1, work x.2)) = Prod.fst := rfl
  rw [spawnPending_eq]
  simp only [List.map_append, List.map_map, hfst, List.append_assoc, List.map_take,
    List.map_drop, List.take_append_drop]

/-- A refill spawns the first pending paths, and joins nothing. -/
theorem spawned_spawnPending (jobs : Nat) (work : String → α) (slots : List (Option α))
    (tasks : List (Nat × α)) (pending : List (Nat × String)) :
    (spawnPending jobs work slots tasks pending).2.filterMap Action.spawned? =
        (pending.map Prod.fst).take (jobs - tasks.length) ∧
      (spawnPending jobs work slots tasks pending).2.filterMap Action.joined? = [] := by
  rw [spawnPending_eq]
  constructor
  · rw [spawned_map_spawn, List.map_take]
  · exact joined_map_spawn _

/-- A refill leaves the set empty only if there was nothing to run. -/
theorem spawnPending_empty {jobs : Nat} {work : String → α} {slots : List (Option α)}
    {tasks : List (Nat × α)} {pending : List (Nat × String)} (hjobs : 0 < jobs)
    (h : (spawnPending jobs work slots tasks pending).1.tasks = []) :
    tasks = [] ∧ pending = [] := by
  rw [spawnPending_eq] at h
  obtain ⟨rfl, htake⟩ := List.append_eq_nil_iff.1 h
  rw [List.map_eq_nil_iff, List.take_eq_nil_iff] at htake
  exact ⟨rfl, htake.resolve_left (by simp only [List.length_nil]; omega)⟩

/-- A refill never fills the set beyond `jobs`. -/
theorem length_spawnPending_le {jobs : Nat} {work : String → α} {slots : List (Option α)}
    {tasks : List (Nat × α)} {pending : List (Nat × String)} (h : tasks.length ≤ jobs) :
    (spawnPending jobs work slots tasks pending).1.tasks.length ≤ jobs := by
  rw [spawnPending_eq]
  simp only [List.length_append, List.length_map, List.length_take]
  omega

theorem join_eq_none {p : Pool α} {k : Nat} : p.join k = none ↔ p.tasks = [] := by
  unfold join
  split <;> simp_all

/-- A wait takes one running task out of the set and puts its result in its slot. -/
theorem join_eq_some {p : Pool α} {k index : Nat} {q : Pool α}
    (h : p.join k = some (index, q)) :
    ∃ before after result, p.tasks = before ++ (index, result) :: after ∧
      q = ⟨p.slots.set index (some result), p.pending, before ++ after⟩ := by
  unfold join at h
  split at h
  · cases h
  · rename_i t ts hts
    cases h
    have hj : k % (ts.length + 1) < (t :: ts).length := Nat.mod_lt _ (Nat.succ_pos _)
    refine ⟨(t :: ts).take (k % (ts.length + 1)), (t :: ts).drop (k % (ts.length + 1) + 1),
      ((t :: ts).get ⟨_, hj⟩).2, ?_, ?_⟩
    · rw [hts, List.get_eq_getElem, List.getElem_cons_drop, List.take_append_drop]
    · rw [List.eraseIdx_eq_take_drop_succ]

end Pool

/-! ### What the loop does -/

/-- The loop spawns the pending paths, in order. -/
theorem spawns_loop {jobs : Nat} (hjobs : 0 < jobs) (work : String → α) (pick : Nat → Nat)
    (round : Nat) (p : Pool α) :
    (loop jobs work pick round p).2.filterMap Action.spawned? = p.pending.map Prod.fst := by
  fun_induction loop jobs work pick round p with
  | case1 round p r h =>
    obtain ⟨-, hpending⟩ := Pool.spawnPending_empty hjobs (Pool.join_eq_none.1 h)
    simp [r, Pool.spawnPending_eq, hpending]
  | case2 round p r index next h _ rest ih =>
    obtain ⟨before, after, result, -, hnext⟩ := Pool.join_eq_some h
    -- the refill spawns the first pending paths; the rest of the loop spawns the others
    have hrest : next.pending.map Prod.fst = (p.pending.map Prod.fst).drop (jobs - p.tasks.length) := by
      simp [hnext, r, Pool.spawnPending_eq]
    have hspawned := (Pool.spawned_spawnPending jobs work p.slots p.tasks p.pending).1
    simp only [rest, r, List.filterMap_append, List.filterMap_cons, Action.spawned?, ih, hrest,
      hspawned, List.take_append_drop]

/-- The loop joins each running and pending task once. -/
theorem joins_loop {jobs : Nat} (hjobs : 0 < jobs) (work : String → α) (pick : Nat → Nat)
    (round : Nat) (p : Pool α) :
    ((loop jobs work pick round p).2.filterMap Action.joined?).Perm
      (p.tasks.map Prod.fst ++ p.pending.map Prod.fst) := by
  fun_induction loop jobs work pick round p with
  | case1 round p r h =>
    obtain ⟨htasks, hpending⟩ := Pool.spawnPending_empty hjobs (Pool.join_eq_none.1 h)
    simp [r, Pool.spawnPending_eq, htasks, hpending]
  | case2 round p r index next h _ rest ih =>
    obtain ⟨before, after, result, htasks, hnext⟩ := Pool.join_eq_some h
    have hjoined := (Pool.spawned_spawnPending jobs work p.slots p.tasks p.pending).2
    -- the refill keeps the indices; the wait takes `index` out of them
    have hidx : p.tasks.map Prod.fst ++ p.pending.map Prod.fst =
        before.map Prod.fst ++ index :: (after.map Prod.fst ++ next.pending.map Prod.fst) := by
      rw [← Pool.spawnPending_indices jobs work p.slots p.tasks p.pending]
      change r.1.tasks.map Prod.fst ++ r.1.pending.map Prod.fst = _
      simp [htasks, hnext]
    simp only [rest, r, List.filterMap_append, List.filterMap_cons, Action.joined?, hjoined,
      List.nil_append, hidx]
    refine (ih.cons index).trans ?_
    rw [hnext]
    simpa using List.perm_middle.symm

/-- The join set of the loop holds at most `jobs` tasks at every moment. -/
theorem inFlight_loop (jobs : Nat) (work : String → α) (pick : Nat → Nat) (round : Nat)
    (p : Pool α) (hp : p.tasks.length ≤ jobs) :
    InFlight jobs p.tasks.length (loop jobs work pick round p).2 := by
  fun_induction loop jobs work pick round p with
  | case1 round p r h =>
    have hempty := Pool.join_eq_none.1 h
    simp only [r, Pool.spawnPending_eq, List.append_eq_nil_iff, List.map_eq_nil_iff] at hempty
    obtain ⟨htasks, htake⟩ := hempty
    simp only [r, Pool.spawnPending_eq]
    rw [htake, htasks]
    exact .done
  | case2 round p r index next h _ rest ih =>
    have hle : r.1.tasks.length ≤ jobs := Pool.length_spawnPending_le hp
    obtain ⟨before, after, result, htasks, hnext⟩ := Pool.join_eq_some h
    -- the refill spawns while the set has room; then the wait takes one task out
    have hr : r.1.tasks.length = p.tasks.length +
        (p.pending.take (jobs - p.tasks.length)).length := by
      simp [r, Pool.spawnPending_eq]
    have hnext' : r.1.tasks.length = next.tasks.length + 1 := by
      rw [htasks, hnext]
      simp only [List.length_append, List.length_cons]
      omega
    simp only [rest, r, Pool.spawnPending_eq]
    refine InFlight.spawns _ (by omega) ?_
    rw [← hr, hnext']
    exact .join (ih (by omega))

/-! ### The slots -/

namespace Pool

/-- What the runner keeps while it runs `work` on `paths`: a slot for each path; each
    running task and each pending path is for the path of its index, each index at most
    once among them; and the slot of every other index holds the result of its path. -/
structure Inv (paths : List String) (work : String → α) (p : Pool α) : Prop where
  length_slots : p.slots.length = paths.length
  tasks : ∀ x ∈ p.tasks, paths[x.1]?.map work = some x.2
  pending : ∀ x ∈ p.pending, paths[x.1]? = some x.2
  nodup : (p.tasks.map Prod.fst ++ p.pending.map Prod.fst).Nodup
  slots : ∀ i, i ∉ p.tasks.map Prod.fst ++ p.pending.map Prod.fst →
    p.slots[i]? = paths[i]?.map (some ∘ work)

variable {paths : List String} {work : String → α}

theorem inv_start (paths : List String) (work : String → α) :
    (start paths : Pool α).Inv paths work where
  length_slots := List.length_map _
  tasks := fun _ h => nomatch h
  pending := by
    intro x hx
    obtain ⟨i, hi, rfl⟩ := List.mem_iff_getElem.1 hx
    simp [start, List.getElem_zip]
  nodup := by simp [start, List.map_fst_zip, List.nodup_range]
  slots := by
    intro i hi
    have hle : paths.length ≤ i := by simpa [start, List.map_fst_zip] using hi
    simp [start, hle]

/-- A refill keeps the invariant: it moves pending paths to running tasks. -/
theorem Inv.spawnPending {jobs : Nat} {p : Pool α} (h : p.Inv paths work) :
    (spawnPending jobs work p.slots p.tasks p.pending).1.Inv paths work := by
  have hidx := spawnPending_indices jobs work p.slots p.tasks p.pending
  rw [spawnPending_eq] at hidx ⊢
  refine ⟨h.length_slots, ?_, ?_, hidx ▸ h.nodup, fun i hi => h.slots i (hidx ▸ hi)⟩
  · intro x hx
    rcases List.mem_append.1 hx with hx | hx
    · exact h.tasks x hx
    · obtain ⟨y, hy, rfl⟩ := List.mem_map.1 hx
      simp [h.pending y (List.mem_of_mem_take hy)]
  · exact fun x hx => h.pending x (List.mem_of_mem_drop hx)

/-- A wait keeps the invariant: the index of the joined task leaves the running ones, and
    its slot gets the result of its path. -/
theorem Inv.join {p q : Pool α} {k index : Nat} (h : p.Inv paths work)
    (hj : p.join k = some (index, q)) : q.Inv paths work := by
  obtain ⟨before, after, result, htasks, rfl⟩ := join_eq_some hj
  have hres : paths[index]?.map work = some result := h.tasks (index, result) (by simp [htasks])
  have hnodup := h.nodup
  rw [htasks] at hnodup
  have hlt : index < p.slots.length := by
    obtain ⟨path, hpath, -⟩ := Option.map_eq_some_iff.1 hres
    rw [h.length_slots]
    exact (List.getElem?_eq_some_iff.1 hpath).1
  refine ⟨by simp [h.length_slots], ?_, h.pending, ?_, ?_⟩
  · intro x hx
    apply h.tasks x
    rw [htasks]
    rcases List.mem_append.1 hx with hx | hx
    · exact List.mem_append_left _ hx
    · exact List.mem_append_right _ (List.mem_cons_of_mem _ hx)
  · refine hnodup.sublist (List.Sublist.append_right (List.Sublist.map _ ?_) _)
    exact List.Sublist.append_left (List.sublist_cons_self _ after) before
  · intro i hi
    by_cases hii : i = index
    · subst hii
      rw [List.getElem?_set_self hlt, ← Option.map_map, hres]
      rfl
    · rw [List.getElem?_set_ne (Ne.symm hii)]
      refine h.slots i ?_
      rw [htasks]
      simp only [List.map_append, List.map_cons, List.mem_append, List.mem_cons, not_or] at hi ⊢
      exact ⟨⟨hi.1.1, hii, hi.1.2⟩, hi.2⟩

/-- When nothing runs and nothing is pending, every slot holds the result of its path. -/
theorem Inv.slots_eq {p : Pool α} (h : p.Inv paths work) (htasks : p.tasks = [])
    (hpending : p.pending = []) : p.slots = paths.map (some ∘ work) := by
  apply List.ext_getElem?
  intro i
  rw [h.slots i (by simp [htasks, hpending]), List.getElem?_map]

end Pool

/-- The loop fills the slot of each path with the result of its work. -/
theorem slots_loop {jobs : Nat} (hjobs : 0 < jobs) (work : String → α) (pick : Nat → Nat)
    (round : Nat) (p : Pool α) {paths : List String} (h : p.Inv paths work) :
    (loop jobs work pick round p).1 = paths.map (some ∘ work) := by
  fun_induction loop jobs work pick round p with
  | case1 round p r h' =>
    have hempty := Pool.join_eq_none.1 h'
    obtain ⟨htasks, hpending⟩ := Pool.spawnPending_empty hjobs hempty
    have hm : r.1.pending.length + r.1.tasks.length = p.pending.length + p.tasks.length :=
      Pool.spawnPending_measure jobs work p.slots p.tasks p.pending
    rw [htasks, hpending, hempty] at hm
    exact h.spawnPending.slots_eq hempty (List.eq_nil_of_length_eq_zero (by simpa using hm))
  | case2 round p r index next h' _ rest ih => exact ih (h.spawnPending.join h')

/-! ### A whole run -/

section Run

variable (jobs : Nat) (work : String → α) (pick : Nat → Nat) (paths : List String)

theorem spawns_runBounded :
    (runBounded jobs work pick paths).2.filterMap Action.spawned? = List.range paths.length := by
  rw [runBounded, spawns_loop (by omega)]
  simp [Pool.start, List.map_fst_zip]

theorem joins_runBounded :
    ((runBounded jobs work pick paths).2.filterMap Action.joined?).Perm
      (List.range paths.length) := by
  rw [runBounded]
  refine (joins_loop (by omega) work pick 0 (Pool.start paths)).trans (List.Perm.of_eq ?_)
  simp [Pool.start, List.map_fst_zip]

theorem inFlight_runBounded : InFlight (max jobs 1) 0 (runBounded jobs work pick paths).2 :=
  inFlight_loop (max jobs 1) work pick 0 (Pool.start paths) (by simp [Pool.start])

theorem slots_runBounded : (runBounded jobs work pick paths).1 = paths.map (some ∘ work) :=
  slots_loop (by omega) work pick 0 (Pool.start paths) (Pool.inv_start paths work)

end Run

end Bounded

/-- Every file of a suite is reported as it is when run on its own, in the order given,
    whatever the number of jobs and the schedule. -/
theorem runSuiteWith_eq_ofFiles (t : Files.Tree) (paths : List String) (jobs : Nat)
    (pick : Nat → Nat) :
    runSuiteWith t paths jobs pick = SuiteReport.ofFiles (paths.map (FileReport.run t)) := by
  unfold runSuiteWith
  simp only [Bounded.slots_runBounded]
  congr 1
  -- every slot is filled, so no file is reported as cancelled
  induction paths with
  | nil => rfl
  | cons path paths ih => simp [ih]

/-- Whatever the number of jobs and the order in which its tasks finish, the bounded runner
    spawns a task for each path once and in order, never holds more than `max jobs 1` tasks,
    joins each task once (so it stops after as many joins as there are paths), and fills the
    slot of each path with the result of its work; so the report of a suite is that of each
    file run on its own, in the order given. -/
theorem runBounded_schedule_free :
    (∀ {α : Type} (jobs : Nat) (work : String → α) (pick : Nat → Nat) (paths : List String),
      (Bounded.runBounded jobs work pick paths).2.filterMap Bounded.Action.spawned? =
          List.range paths.length ∧
        Bounded.InFlight (max jobs 1) 0 (Bounded.runBounded jobs work pick paths).2 ∧
        ((Bounded.runBounded jobs work pick paths).2.filterMap Bounded.Action.joined?).Perm
          (List.range paths.length) ∧
        ((Bounded.runBounded jobs work pick paths).2.filterMap Bounded.Action.joined?).length =
          paths.length ∧
        (Bounded.runBounded jobs work pick paths).1 = paths.map (some ∘ work)) ∧
    ∀ (t : Files.Tree) (paths : List String) (jobs : Nat) (pick : Nat → Nat),
      runSuiteWith t paths jobs pick = SuiteReport.ofFiles (paths.map (FileReport.run t)) := by
  refine ⟨fun jobs work pick paths => ⟨?_, ?_, ?_, ?_, ?_⟩, runSuiteWith_eq_ofFiles⟩
  · exact Bounded.spawns_runBounded jobs work pick paths
  · exact Bounded.inFlight_runBounded jobs work pick paths
  · exact Bounded.joins_runBounded jobs work pick paths
  · rw [(Bounded.joins_runBounded jobs work pick paths).length_eq, List.length_range]
  · exact Bounded.slots_runBounded jobs work pick paths

end ReflectCheck
