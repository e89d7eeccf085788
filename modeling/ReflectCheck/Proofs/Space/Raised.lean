import ReflectCheck.Proofs.Space.Inspect
import ReflectCheck.Proofs.Report.Lines

/-!
# The faults operations raise, and how they read

A computation raises faults of a kind (`Space.Raises`) when every fault it ends with is of that
kind in the space it leaves: this is the exceptional postcondition of the computation. A
sequence raises what its first part raises and what its second part raises from the space the
first leaves (`Space.Raises.bind`), so the kind of the faults of an operation follows its code.

The reflective operations raise four faults only (`Space.Raised`): a slot that holds no entity,
an exhausted space, a method that the receiver does not support, and a superclass that cannot
be subclassed; the last two show the value as the space they leave inspects it.

In a space whose names are qualified constants, every value is shown by a text with neither a
line feed nor a carriage return (`Space.plain_inspect`), and so is every fault an operation
raises (`Space.Raised.plain_message`).
-/

namespace ReflectCheck

open Text

/-! ### How values are shown -/

theorem Handle.plain_text (h : Handle) : Plain h.text := by
  simp only [Handle.text, plain_append, plain_toString_nat, and_true]
  decide

namespace Text

theorem plain_toString_int (i : Int) : Plain (toString i) := by
  rw [Int.toString_eq_repr, Int.repr_eq_if]
  split
  · exact plain_toString_nat _
  · exact plain_append.2 ⟨by decide, plain_toString_nat _⟩

theorem plain_escapeChar (c : Char) : Plain (String.ofList (escapeChar c)) := by
  unfold escapeChar
  split_ifs with h0 ht hr hn
  any_goals decide
  · -- a code point is written with hexadecimal digits between braces
    intro d hd
    simp only [String.toList_ofList, List.cons_append, List.nil_append, List.mem_cons,
      List.mem_append, List.not_mem_nil, or_false] at hd
    rcases hd with rfl | rfl | rfl | hd | rfl
    any_goals decide
    unfold hexDigits at hd
    obtain ⟨k, hk, rfl⟩ := mem_toDigits (show 1 < 16 by decide) hd
    have hdigits : ∀ k < 16, k.digitChar ≠ '\n' ∧ k.digitChar ≠ '\r' := by decide
    exact hdigits k hk
  · intro d hd
    rw [String.toList_ofList, List.mem_singleton] at hd
    rw [hd]
    exact ⟨hn, hr⟩

theorem plain_quote (s : String) : Plain (quote s) := by
  intro c hc
  rw [toList_quote, List.mem_cons, List.mem_append, List.mem_singleton] at hc
  rcases hc with rfl | hc | rfl
  · decide
  · obtain ⟨d, -, hd⟩ := List.mem_flatMap.1 hc
    exact plain_escapeChar d c (by rwa [String.toList_ofList])
  · decide

end Text

theorem Value.plain_display (v : Value) : Plain v.display := by
  cases v with
  | nil => decide
  | bool b => cases b <;> decide
  | int i => exact plain_toString_int i
  | str s => exact plain_quote s
  | object h => exact plain_append.2 ⟨plain_append.2 ⟨by decide, h.plain_text⟩, by decide⟩

namespace Expr

theorem plain_of_isQualifiedConstant {name : String} (h : isQualifiedConstant name = true) :
    Plain name := by
  intro c hc
  rcases (isQualifiedConstant_iff.1 h).2 c hc with hi | rfl
  · constructor <;> rintro rfl <;> exact absurd hi (by decide)
  · decide

theorem Method.plain_text (m : Method) : Plain m.text := by
  cases m <;> decide

end Expr

namespace Space

variable {s : Space}

/-- An entity is shown by its name, or by the texts of slots around the text of an entity
    before it. -/
theorem plain_inspectHandle (hn : s.WellNamed) (h : Handle) : Plain (s.inspectHandle h) := by
  induction h using Handle.rec with
  | mk n =>
  -- strong induction on the slot, as the text of an instance or a singleton class holds the
  -- text of an entity in an earlier slot
  induction n using Nat.strongRecOn with
  | ind n ih =>
    rw [inspectHandle]
    split
    · simp only [plain_append, Handle.plain_text, and_true]
      decide
    · rename_i e he
      split
      · cases hname : e.name with
        | none =>
          simp only [Option.getD_none, plain_append, Handle.plain_text, and_true]
          decide
        | some m =>
          rw [Option.getD_some]
          exact Expr.plain_of_isQualifiedConstant (hn.qualified _ e m he hname)
      · rename_i c hk
        split
        · rename_i hlt
          simp only [plain_append, ih c.slot hlt, Handle.plain_text, and_true]
          decide
        · simp only [plain_append, Handle.plain_text, and_true]
          decide
      · rename_i a hk
        split
        · rename_i hlt
          simp only [plain_append, ih a.slot hlt, and_true]
          decide
        · simp only [plain_append, Handle.plain_text, and_true]
          decide

theorem plain_inspect (hn : s.WellNamed) (v : Value) : Plain (s.inspect v) := by
  cases v with
  | object h => exact plain_inspectHandle hn h
  | _ => exact Value.plain_display _

/-! ### Faults raised by a computation -/

/-- Every fault the computation raises satisfies `P` in the space it leaves. -/
def Raises {α : Type} (P : Space → Fault → Prop) (m : SpaceM α) : Prop :=
  ∀ s f s', m.run s = .error f s' → P s' f

namespace Raises

variable {P Q : Space → Fault → Prop} {α β : Type}

theorem pure (a : α) : Raises P (Pure.pure a : SpaceM α) := fun _ _ _ h => by cases h

theorem bind {m : SpaceM α} {k : α → SpaceM β} (hm : Raises P m) (hk : ∀ a, Raises P (k a)) :
    Raises P (m >>= k) := by
  intro s f s' h
  cases hr : m.run s with
  | ok a s₁ =>
    simp only [EStateM.run_bind, hr] at h
    exact hk a s₁ f s' h
  | error g s₁ =>
    simp only [EStateM.run_bind, hr] at h
    cases h
    exact hm s _ _ hr

theorem map {m : SpaceM α} (hm : Raises P m) (g : α → β) : Raises P (g <$> m) := by
  intro s f s' h
  cases hr : m.run s with
  | ok a s₁ =>
    rw [run_map_ok g hr] at h
    cases h
  | error g' s₁ =>
    rw [run_map_error g hr] at h
    cases h
    exact hm s _ _ hr

/-- A fault that holds of every space. -/
theorem throw {f : Fault} (hf : ∀ s, P s f) : Raises P (MonadExcept.throw f : SpaceM α) :=
  fun s _ _ h => by
    cases h
    exact hf s

/-- A fault made from the space it is raised in. -/
theorem throw_read {g : Space → Fault} (hg : ∀ s, P s (g s)) :
    Raises P (do MonadExcept.throw (g (← get)) : SpaceM α) :=
  fun s _ _ h => by
    cases h
    exact hg s

theorem mono {m : SpaceM α} (hm : Raises P m) (hPQ : ∀ s f, P s f → Q s f) : Raises Q m :=
  fun s f s' h => hPQ s' f (hm s f s' h)

/-! Reading and writing the space raise nothing. -/

theorem get : Raises P (get : SpaceM Space) := fun _ _ _ h => by cases h

theorem set (s : Space) : Raises P (set s : SpaceM PUnit) := fun _ _ _ h => by cases h

theorem modifyGet (g : Space → α × Space) : Raises P (modifyGet g : SpaceM α) :=
  fun _ _ _ h => by cases h

end Raises

/-! ### The faults of the reflective operations -/

/-- The faults the reflective operations raise, each read in the space they leave. -/
inductive Raised (s : Space) : Fault → Prop
  /-- A slot that holds no entity. -/
  | dangling (n : Nat) : Raised s (.dangling n)
  /-- A space with no free slot. -/
  | exhausted : Raised s .exhausted
  /-- A method the receiver does not support, with the receiver shown as the space shows it. -/
  | unsupported (m : Expr.Method) (v : Value) : Raised s (.unsupported m.text (s.inspect v))
  /-- A superclass that is not a class, or is `Class`, shown as the space shows it. -/
  | notSubclassable (h : Handle) :
      Raised s (.typeMismatch "subclassable class" (s.inspectHandle h))

theorem raises_entity (h : Handle) : Raises Raised (entity h) := by
  unfold entity
  refine .bind .get fun t => ?_
  split
  · exact .pure _
  · exact .throw fun _ => .dangling _

theorem raises_allocate (k : Kind) (n : Option String) : Raises Raised (allocate k n) := by
  unfold allocate
  refine .bind .get fun t => ?_
  split
  · exact .bind (.set _) fun _ => .pure _
  · exact .throw fun _ => .exhausted

theorem raises_unsupported {α : Type} (m : Expr.Method) (v : Value) :
    Raises Raised (unsupported m.text v : SpaceM α) :=
  .throw_read fun _ => .unsupported m v

theorem raises_defineClass (n : Option String) (sc : Option Handle) :
    Raises Raised (defineClass n sc) := by
  unfold defineClass
  refine .bind (raises_entity _) fun e => ?_
  split
  · split
    · exact .throw_read fun _ => .notSubclassable _
    · exact raises_allocate _ _
  · exact .throw_read fun _ => .notSubclassable _

theorem raises_newInstance (c : Handle) : Raises Raised (newInstance c) := by
  unfold newInstance
  split
  · exact raises_defineClass _ _
  · refine .bind (raises_entity _) fun e => ?_
    split
    · exact raises_allocate _ _
    · exact raises_unsupported .new _

theorem raises_singletonClass (h : Handle) : Raises Raised (singletonClass h) := by
  unfold singletonClass
  refine .bind (raises_entity _) fun e => ?_
  split
  · exact .pure _
  · exact .bind (raises_allocate _ _) fun t => .bind (raises_entity _) fun _ => .modifyGet _

theorem raises_superclassOfHandle (h : Handle) : Raises Raised (superclassOfHandle h) := by
  induction h using Handle.rec with
  | mk n =>
  -- strong induction on the slot, as the recursion goes to the attached entity, before it
  induction n using Nat.strongRecOn with
  | ind n ih =>
    rw [superclassOfHandle]
    refine .bind (raises_entity _) fun e => ?_
    split
    next => exact .pure _
    next => exact raises_unsupported .superclass _
    next a _ =>
      refine .bind (raises_entity _) fun ea => ?_
      split
      next => exact .pure _
      next =>
        split
        next hlt =>
          refine .bind (ih a.slot hlt) fun r => ?_
          split
          · exact .map (raises_singletonClass _) _
          · exact .pure _
        next => exact .throw fun _ => .dangling _

theorem raises_classOf (v : Value) : Raises Raised (classOf v) := by
  unfold classOf
  split
  · refine .bind (raises_entity _) fun e => ?_
    split <;> exact .pure _
  · split
    · exact .pure _
    · exact raises_unsupported .cls _

theorem raises_superclassOf (v : Value) : Raises Raised (superclassOf v) := by
  unfold superclassOf
  split
  · exact .bind (raises_superclassOfHandle _) fun _ => .pure _
  · exact raises_unsupported .superclass _

theorem raises_identityDescriptor (v : Value) : Raises Raised (identityDescriptor v) := by
  unfold identityDescriptor
  split
  next => exact .map (raises_singletonClass _) _
  next =>
    split
    · exact .pure _
    · exact raises_unsupported .singletonClass _
  next =>
    split
    · exact .pure _
    · exact raises_unsupported .singletonClass _
  next => exact raises_unsupported .singletonClass _

theorem raises_instantiate (v : Value) : Raises Raised (instantiate v) := by
  unfold instantiate
  split
  · exact .map (raises_newInstance _) _
  · exact raises_unsupported .new _

theorem raises_nameOf (v : Value) : Raises Raised (nameOf v) := by
  unfold nameOf
  split
  · refine .bind (raises_entity _) fun e => ?_
    split
    · exact .pure _
    · exact .pure _
    · exact raises_unsupported .name _
  · exact raises_unsupported .name _

/-! ### How raised faults read -/

/-- In a space whose names are qualified constants, a raised fault reads with neither a line
    feed nor a carriage return. -/
theorem Raised.plain_message (hn : s.WellNamed) {f : Fault} (hr : Raised s f) :
    Plain f.message := by
  -- each message is shown by its own text, as unfolding the messages of all faults is slow
  cases hr with
  | dangling n =>
    show Plain ("object #" ++ toString n ++ " does not belong to this object space")
    simp only [plain_append, plain_toString_nat, and_true]
    decide
  | exhausted =>
    show Plain "object space is exhausted"
    decide
  | unsupported m v =>
    show Plain ("undefined method `" ++ m.text ++ "` for " ++ s.inspect v)
    simp only [plain_append, Expr.Method.plain_text, plain_inspect hn, and_true]
    decide
  | notSubclassable h =>
    show Plain ("wrong argument type " ++ s.inspectHandle h ++ " (expected " ++
      "subclassable class" ++ ")")
    simp only [plain_append, plain_inspectHandle hn, and_true]
    decide

end Space

namespace Expr

open Space

theorem Method.raises_apply (m : Method) (v : Value) : Raises Raised (m.apply v) := by
  cases m with
  | cls => exact raises_classOf v
  | superclass => exact raises_superclassOf v
  | singletonClass => exact raises_identityDescriptor v
  | new => exact raises_instantiate v
  | name => exact raises_nameOf v

/-- A chain of calls raises what its calls raise, by induction on the chain. -/
theorem raises_applyAll (ms : List Method) (v : Value) : Raises Raised (applyAll ms v) := by
  induction ms generalizing v with
  | nil => exact .pure _
  | cons m ms ih => exact .bind (m.raises_apply v) ih

end Expr

end ReflectCheck
