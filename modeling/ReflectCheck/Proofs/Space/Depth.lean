import ReflectCheck.Proofs.Space.Atomic
import ReflectCheck.Proofs.Space.Inspect

/-!
# How deep inspection and superclass queries go

Inspecting an entity and asking for its superclass are recursions over the slots of a space:
inspection descends into the class of an instance and into the entity a singleton class is
attached to, and the superclass query descends into the attached entity. The queries of
`Space.Basic` and `Space.Reflect` descend only into an earlier slot and treat any other link as
dangling, so they end by the slot alone. Here the queries are also written with no such guard,
descending into whatever the link names, at most `depth` calls deep (`Space.inspectWithin`,
`Space.superclassWithin`), and the two forms are compared.

In a well-formed space every link the recursions follow points to an earlier slot
(`Space.SlotOk`), so `h.slot` calls are always deep enough and the unguarded forms give what
the guarded ones give:

* `inspectWithin_of_live`: from a live handle, inspection meets only live entities, whatever a
  missing one would be shown as;
* `superclassWithin_run`: the unguarded superclass query gives the same answer or fault and
  leaves the same space;
* `recursion_within_slot`: both, in every space reached by calls, for every handle, and no
  superclass query on a live handle finds a dangling link.
-/

namespace ReflectCheck

namespace Space

/-! ### The queries with no slot guard -/

/-- Inspection of `h` descending into every link, at most `depth` calls deep: `none` where it
    would have to go deeper. A slot that holds no entity is shown by `dangling`. -/
def inspectWithin (s : Space) (dangling : Handle → String) : Nat → Handle → Option String
  | depth, h =>
    match s.get? h with
    | none => some (dangling h)
    | some e =>
      match e.kind, depth with
      | .cls _, _ => some (e.name.getD ("#<Class:" ++ h.text ++ ">"))
      | .inst c, d + 1 =>
        (inspectWithin s dangling d c).map fun t => "#<" ++ t ++ ":" ++ h.text ++ ">"
      | .single a, d + 1 => (inspectWithin s dangling d a).map fun t => "#<Class:" ++ t ++ ">"
      | _, 0 => none

/-- One call of the superclass query with no slot guard, `recur` standing for its recursive
    call on the attached entity. -/
def superclassStep (recur : Handle → OptionT SpaceM (Option Handle)) (h : Handle) :
    OptionT SpaceM (Option Handle) := do
  let e ← entity h
  match e.kind with
  | .cls superclass => pure superclass
  | .inst _ => OptionT.lift (unsupported "superclass" (.object h))
  | .single a =>
    let attached ← entity a
    match attached.kind with
    | .inst c => pure (some c)
    | _ =>
      match ← recur a with
      | some parent => some <$> singletonClass parent
      | none => pure (some Handle.classClass)

/-- The superclass query with no slot guard, at most `depth` calls deep: it fails (as an
    `OptionT`) where it would have to go deeper. -/
def superclassWithin : Nat → Handle → OptionT SpaceM (Option Handle)
  | 0 => superclassStep fun _ => failure
  | d + 1 => superclassStep (superclassWithin d)

variable {s : Space}

theorem not_live_of_get?_none {h : Handle} (he : s.get? h = none) : ¬ s.Live h := by
  rw [live_iff_get?, he]
  simp

/-- An instance or a singleton class links to an earlier slot, so it is not in slot 0. -/
theorem WellFormed.slot_pos (hw : s.WellFormed) {h : Handle} {e : Entity}
    (he : s.get? h = some e) (hk : ∀ sc, e.kind ≠ .cls sc) : 0 < h.slot := by
  rcases hek : e.kind with sc | c | a
  · exact absurd hek (hk sc)
  · exact Nat.lt_of_le_of_lt (Nat.zero_le _) ((hw.slot h e he).cls c hek).1
  · exact Nat.lt_of_le_of_lt (Nat.zero_le _) ((hw.slot h e he).attached a hek).1

/-! ### Inspection -/

/-- From a live handle, `h.slot` calls are deep enough and every entity met is live: the text is
    that of `inspectHandle`, however a missing entity would be shown. -/
theorem inspectWithin_of_live (hw : s.WellFormed) (dangling : Handle → String) {d : Nat}
    {h : Handle} (hd : h.slot ≤ d) (hl : s.Live h) :
    s.inspectWithin dangling d h = some (s.inspectHandle h) := by
  fun_induction inspectWithin s dangling d h with
  | case1 d h he => exact absurd hl (not_live_of_get?_none he)
  | case2 d h e he sc hk => rw [inspectHandle_of_cls he hk]
  | case3 h e he c d hk ih =>
    obtain ⟨hlt, ⟨ec, hec, -⟩, -⟩ := (hw.slot h e he).cls c hk
    rw [ih (by omega) (get?_lt hec), inspectHandle_of_inst hw he hk]
    rfl
  | case4 h e he a d hk ih =>
    obtain ⟨hlt, ea, hea, -⟩ := (hw.slot h e he).attached a hk
    rw [ih (by omega) (get?_lt hea), inspectHandle_of_single hw he hk]
    rfl
  | case5 h e he hk =>
    -- no call is left, but an entity that is not a class has a link to an earlier slot
    have := hw.slot_pos he fun sc h => hk sc h
    omega

/-- With missing entities shown as `inspectHandle` shows them, the unguarded inspection of any
    handle, live or not, agrees with it within `h.slot` calls. -/
theorem inspectWithin_slot (hw : s.WellFormed) (h : Handle) :
    s.inspectWithin (fun h => "#<dangling " ++ h.text ++ ">") h.slot h = some (s.inspectHandle h) := by
  cases he : s.get? h with
  | none => rw [inspectWithin, he, inspectHandle, he]
  | some e => exact inspectWithin_of_live hw _ (Nat.le_refl _) (get?_lt he)

/-! ### The superclass query -/

theorem run_bind_congr {α β : Type} {x y : SpaceM α} (f : α → SpaceM β) (h : x.run s = y.run s) :
    (x >>= f).run s = (y >>= f).run s := by
  rw [EStateM.run_bind, EStateM.run_bind, h]

theorem run_map_congr {α β : Type} {x y : SpaceM α} (f : α → β) (h : x.run s = y.run s) :
    (f <$> x).run s = (f <$> y).run s := by
  rw [← bind_pure_comp, ← bind_pure_comp, run_bind_congr _ h]

/-- One unguarded call runs as the guarded query when its recursive call does, on the entity a
    singleton class is attached to. -/
theorem superclassStep_run {recur : Handle → OptionT SpaceM (Option Handle)} {h : Handle}
    (hw : s.WellFormed)
    (hrec : ∀ e a, s.get? h = some e → e.kind = .single a →
      (recur a).run.run s = (some <$> superclassOfHandle a).run s) :
    (superclassStep recur h).run.run s = (some <$> superclassOfHandle h).run s := by
  cases he : s.get? h with
  | none =>
    simp [superclassStep, entity_run_of_get?_none he,
      run_map_error _ (superclassOfHandle_run_of_get?_none he)]
  | some e =>
    rcases hk : e.kind with sc | c | a
    · simp [superclassStep, entity_run he, hk, run_map_ok _ (superclassOfHandle_run_cls he hk)]
    · simp [superclassStep, entity_run he, hk, run_map_error _ (superclassOfHandle_run_inst he hk),
        run_map_error _ (unsupported_run _ _ _)]
    · cases ha : s.get? a with
      | none =>
        simp [superclassStep, entity_run he, hk, entity_run_of_get?_none ha,
          run_map_error _ (superclassOfHandle_run_single_of_get?_none he hk ha)]
      | some ea =>
        by_cases hinst : ∃ c, ea.kind = .inst c
        · obtain ⟨c, hc⟩ := hinst
          simp [superclassStep, entity_run he, hk, entity_run ha, hc,
            run_map_ok _ (superclassOfHandle_run_single_inst he hk ha hc)]
        · -- the guarded query descends too, as the link goes to an earlier slot; both then
          -- continue alike from the answer for the attached entity
          have hka : ∀ c, ea.kind ≠ .inst c := fun c hc => hinst ⟨c, hc⟩
          have hlt := ((hw.slot h e he).attached a hk).1
          simp only [superclassStep, OptionT.run_bind, OptionT.run_monadLift, monadLift_self,
            Option.elimM_map, Option.elim_some, EStateM.run_bind, entity_run he, hk, entity_run ha]
          rw [Option.elimM, run_bind_congr _ (hrec e a he hk), bind_map_left,
            run_map_congr _ (superclassOfHandle_run_single_bind he hk ha hka hlt), map_bind]
          congr
          funext p
          cases p with
          | none => rfl
          | some p => simp [singletonAbove]

/-- `h.slot` calls are deep enough for the unguarded superclass query, which then gives the
    answer or fault of the guarded one and leaves the same space. -/
theorem superclassWithin_run (hw : s.WellFormed) {d : Nat} {h : Handle} (hd : h.slot ≤ d) :
    (superclassWithin d h).run.run s = (some <$> superclassOfHandle h).run s := by
  -- each call descends to the attached entity, at an earlier slot
  induction d generalizing h with
  | zero =>
    rw [superclassWithin]
    refine superclassStep_run hw fun e a he hk => ?_
    have := ((hw.slot h e he).attached a hk).1
    omega
  | succ d ih =>
    rw [superclassWithin]
    refine superclassStep_run hw fun e a he hk => ih ?_
    have := ((hw.slot h e he).attached a hk).1
    omega

/-- The superclass query on a live handle finds no dangling link. -/
theorem superclassOfHandle_ne_dangling (hw : s.WellFormed) {h : Handle} (hl : s.Live h)
    (n : Nat) (s' : Space) : (superclassOfHandle h).run s ≠ .error (.dangling n) s' := by
  intro hr
  obtain ⟨x, hx, -, hnl⟩ := (superclassOfHandle_failsCleanly hw h).dangling n s' hr
  cases Option.mem_some_iff.1 hx
  exact hnl hl

/-! ### Spaces reached by calls -/

/-- In every space reached by calls, inspection and the superclass query need at most as many
    nested calls as the slot of the handle they start from, live or not, and descending into
    every link with no guard changes nothing; from a live handle, inspection meets only live
    entities and the superclass query finds no dangling link. -/
theorem recursion_within_slot (calls : List Call) :
    (∀ h, (initial.runCalls calls).inspectWithin (fun h => "#<dangling " ++ h.text ++ ">")
        h.slot h = some ((initial.runCalls calls).inspectHandle h)) ∧
    (∀ h, (initial.runCalls calls).Live h → ∀ dangling,
      (initial.runCalls calls).inspectWithin dangling h.slot h =
        some ((initial.runCalls calls).inspectHandle h)) ∧
    (∀ h, (superclassWithin h.slot h).run.run (initial.runCalls calls) =
      (some <$> superclassOfHandle h).run (initial.runCalls calls)) ∧
    ∀ h, (initial.runCalls calls).Live h → ∀ n s',
      (superclassOfHandle h).run (initial.runCalls calls) ≠ .error (.dangling n) s' := by
  have hw := wellFormed_initial.runCalls calls
  exact ⟨inspectWithin_slot hw, fun _ hl dangling => inspectWithin_of_live hw dangling le_rfl hl,
    fun _ => superclassWithin_run hw le_rfl, fun _ hl => superclassOfHandle_ne_dangling hw hl⟩

end Space

end ReflectCheck
