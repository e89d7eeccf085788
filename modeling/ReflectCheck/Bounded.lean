/-!
# Work on a bounded set of tasks

`runBounded jobs work pick paths` runs `work` on every path, each on a task of a join set
that holds at most `jobs` tasks at a time (at least one). It spawns tasks for the next
paths, in order, while the set has room; then it waits for a task to finish, puts the
task's result in the slot of its path, and starts over. It stops when no task is left.

Which running task finishes first is up to the runtime; the schedule `pick` says it: at
the `k`-th wait, the task at position `pick k` (modulo their number) among the running
tasks, oldest first, finishes. Besides the slots, one per path in the order of the paths,
a run gives the actions it took on the join set, in order.
-/

namespace ReflectCheck.Bounded

/-- An action on the join set. -/
inductive Action where
  /-- A task spawned for the path at this index. -/
  | spawn (index : Nat)
  /-- The task of the path at this index joined. -/
  | join (index : Nat)
  deriving DecidableEq, Inhabited

/-- The runner between two waits. -/
structure Pool (α : Type) where
  /-- The result of each path whose task was joined. -/
  slots : List (Option α)
  /-- The paths with no task yet, with their indices, in order. -/
  pending : List (Nat × String)
  /-- The running tasks, oldest first: the index of the path and the task's result. -/
  tasks : List (Nat × α)

variable {α : Type}

namespace Pool

/-- Nothing run yet: every slot empty, every path pending. -/
def start (paths : List String) : Pool α :=
  ⟨paths.map fun _ => none, (List.range paths.length).zip paths, []⟩

/-- Spawn a task for each next pending path while fewer than `jobs` tasks run: the pool
    then, and the spawns in order. -/
def spawnPending (jobs : Nat) (work : String → α) (slots : List (Option α))
    (tasks : List (Nat × α)) : List (Nat × String) → Pool α × List Action
  | [] => (⟨slots, [], tasks⟩, [])
  | (index, path) :: rest =>
    if tasks.length < jobs then
      let r := spawnPending jobs work slots (tasks ++ [(index, work path)]) rest
      (r.1, .spawn index :: r.2)
    else (⟨slots, (index, path) :: rest, tasks⟩, [])

/-- Spawning moves paths from the pending ones to the running tasks. -/
theorem spawnPending_measure (jobs : Nat) (work : String → α) (slots : List (Option α))
    (tasks : List (Nat × α)) (pending : List (Nat × String)) :
    (spawnPending jobs work slots tasks pending).1.pending.length +
      (spawnPending jobs work slots tasks pending).1.tasks.length =
      pending.length + tasks.length := by
  induction pending generalizing tasks with
  | nil => rfl
  | cons x rest ih =>
    obtain ⟨index, path⟩ := x
    unfold spawnPending
    split
    · rw [ih]
      simp only [List.length_cons, List.length_append, List.length_nil]
      omega
    · rfl

/-- Wait for a task: the running task that the choice `k` picks finishes, leaves the set,
    and its result goes to the slot of its path; `none` when no task runs. -/
def join (p : Pool α) (k : Nat) : Option (Nat × Pool α) :=
  match p.tasks with
  | [] => none
  | t :: ts =>
    let j := k % (ts.length + 1)
    let task := (t :: ts).get ⟨j, Nat.mod_lt _ (Nat.succ_pos _)⟩
    some (task.1, ⟨p.slots.set task.1 (some task.2), p.pending, (t :: ts).eraseIdx j⟩)

/-- A wait takes one task out of the set. -/
theorem join_measure {p : Pool α} {k index : Nat} {q : Pool α} (h : p.join k = some (index, q)) :
    q.pending.length + q.tasks.length + 1 = p.pending.length + p.tasks.length := by
  unfold join at h
  split at h
  · cases h
  · rename_i t ts hts
    cases h
    have hj : k % (ts.length + 1) < (t :: ts).length := Nat.mod_lt _ (Nat.succ_pos _)
    rw [hts, List.length_eraseIdx_of_lt hj]
    simp only [List.length_cons]
    omega

end Pool

/-- Refill the set, wait for a task, and start over; stop when no task runs: the slots at
    the end, and the actions taken. `round` counts the waits. -/
def loop (jobs : Nat) (work : String → α) (pick : Nat → Nat) (round : Nat) (p : Pool α) :
    List (Option α) × List Action :=
  let r := Pool.spawnPending jobs work p.slots p.tasks p.pending
  match h : r.1.join (pick round) with
  | none => (r.1.slots, r.2)
  | some (index, next) =>
    have : next.pending.length + next.tasks.length < p.pending.length + p.tasks.length :=
      Nat.lt_of_lt_of_eq (Nat.lt_of_succ_le (Nat.le_of_eq (Pool.join_measure h)))
        (Pool.spawnPending_measure jobs work p.slots p.tasks p.pending)
    let rest := loop jobs work pick (round + 1) next
    (rest.1, r.2 ++ .join index :: rest.2)
termination_by p.pending.length + p.tasks.length
decreasing_by all_goals assumption

/-- Run `work` on every path on at most `jobs` tasks at a time (at least one), the tasks
    finishing as the schedule says: the slot of each path, and the actions taken. -/
def runBounded (jobs : Nat) (work : String → α) (pick : Nat → Nat) (paths : List String) :
    List (Option α) × List Action :=
  loop (max jobs 1) work pick 0 (Pool.start paths)

end ReflectCheck.Bounded
