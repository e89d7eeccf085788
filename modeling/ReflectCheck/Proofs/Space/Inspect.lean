import Mathlib.Tactic.SplitIfs
import ReflectCheck.Proofs.Expr.Paths
import ReflectCheck.Proofs.Expr.Replay
import ReflectCheck.Proofs.Space.Stability
import ReflectCheck.Proofs.Value.Display

/-!
# Telling entities apart by how they are shown

Inspection shows a class by its name, an anonymous class as `#<Class:#n>`, an instance as
`#<C:#n>` after its class `C`, and a singleton class as `#<Class:X>` around the entity `X` it
is attached to, where `#n` is the slot. In a well-formed space whose names are qualified
constants, each naming one entity (`Space.WellNamed`), the text determines the entity
(`Space.inspectHandle_injective`): a name starts with a capital letter and holds no `#`; the
slotted forms end with the digits of the slot after the last `#`, so they give the slot back;
a singleton class's form ends with `>` or a name, never with digits after a `#`, and gives
back its attached entity, whose singleton class is unique. With the texts of primitives,
inspection tells every value of the space apart (`Space.inspect_injective`).

Evaluating an expression never names an entity (`Expr.addsNoNames_eval`): its methods only
make anonymous classes, instances and singleton classes, so a space stays well named.
-/

namespace ReflectCheck

namespace Expr

/-- Whether `name` reads as a qualified constant: a capital letter first, then letters,
    digits, underscores and colons. Constant identifiers, constant paths and the names
    qualified with a module all do. -/
def isQualifiedConstant (name : String) : Bool :=
  isConstantName name && name.toList.all fun c => isIdentChar c || c == ':'

theorem isConstantName_iff {name : String} :
    isConstantName name = true ↔ ∃ c r, name.toList = c :: r ∧ c.isUpper = true := by
  unfold isConstantName
  split <;> simp_all

theorem isQualifiedConstant_iff {name : String} :
    isQualifiedConstant name = true ↔
      isConstantName name = true ∧ ∀ c ∈ name.toList, isIdentChar c = true ∨ c = ':' := by
  simp [isQualifiedConstant]

theorem hash_not_mem_of_isQualifiedConstant {name : String} (h : isQualifiedConstant name = true) :
    '#' ∉ name.toList := fun hc => by
  rcases (isQualifiedConstant_iff.1 h).2 '#' hc with h' | h'
  · exact absurd h' (by decide)
  · exact absurd h' (by decide)

theorem isQualifiedConstant_of_isConstantIdentifier {name : String}
    (h : isConstantIdentifier name = true) : isQualifiedConstant name = true := by
  unfold isConstantIdentifier at h
  rw [Bool.and_eq_true, List.all_eq_true] at h
  exact isQualifiedConstant_iff.2 ⟨h.1, fun c hc => .inl (h.2 c hc)⟩

/-- A name qualified by colons keeps the first character of its first part. -/
theorem isQualifiedConstant_append {a b : String} (ha : isQualifiedConstant a = true)
    (hb : ∀ c ∈ b.toList, isIdentChar c = true ∨ c = ':') : isQualifiedConstant (a ++ b) = true := by
  obtain ⟨hname, hchars⟩ := isQualifiedConstant_iff.1 ha
  obtain ⟨c, r, hcr, hc⟩ := isConstantName_iff.1 hname
  refine isQualifiedConstant_iff.2 ⟨isConstantName_iff.2 ⟨c, r ++ b.toList, by simp [hcr], hc⟩, ?_⟩
  intro d hd
  rw [String.toList_append, List.mem_append] at hd
  exact hd.elim (hchars d) (hb d)

theorem isQualifiedConstant_of_isConstantPath {path : String} (h : isConstantPath path = true) :
    isQualifiedConstant path = true := by
  obtain ⟨segs, hne, hsegs, rfl⟩ := segments_of_isConstantPath h
  obtain ⟨seg, rest, rfl⟩ := List.exists_cons_of_ne_nil hne
  have hident : ∀ x ∈ seg :: rest, ∀ c ∈ x.toList, isIdentChar c = true ∨ c = ':' := fun x hx =>
    (isQualifiedConstant_iff.1 (isQualifiedConstant_of_isConstantIdentifier (hsegs x hx))).2
  have hsplit : "::".intercalate (seg :: rest) =
      seg ++ String.ofList (rest.flatMap fun x => ':' :: ':' :: x.toList) := by
    apply String.toList_inj.1
    rw [String.toList_append, toList_intercalate_path, String.toList_ofList]
  rw [hsplit]
  refine isQualifiedConstant_append (isQualifiedConstant_of_isConstantIdentifier (hsegs seg (by simp))) ?_
  intro c hc
  simp only [String.toList_ofList, List.mem_flatMap, List.mem_cons] at hc
  obtain ⟨x, hx, rfl | rfl | hc⟩ := hc
  · exact .inr rfl
  · exact .inr rfl
  · exact hident x (List.mem_cons_of_mem seg hx) c hc

theorem isQualifiedConstant_qualify {m name : String} (hm : isConstantPath m = true)
    (hname : isConstantIdentifier name = true) : isQualifiedConstant (m ++ "::" ++ name) = true := by
  rw [String.append_assoc]
  refine isQualifiedConstant_append (isQualifiedConstant_of_isConstantPath hm) fun c hc => ?_
  rw [String.toList_append, List.mem_append] at hc
  rcases hc with hc | hc
  · have hcolon : c = ':' := by simpa using hc
    exact .inr hcolon
  · exact (isQualifiedConstant_iff.1 (isQualifiedConstant_of_isConstantIdentifier hname)).2 c hc

end Expr

/-- Two lists that agree up to a first `a`, which neither holds before it, agree before and
    after it. -/
theorem List.eq_of_append_cons_eq {α : Type} {a : α} {x₁ x₂ z₁ z₂ : List α} (h₁ : a ∉ x₁)
    (h₂ : a ∉ x₂) (h : x₁ ++ a :: z₁ = x₂ ++ a :: z₂) : x₁ = x₂ ∧ z₁ = z₂ := by
  induction x₁ generalizing x₂ with
  | nil =>
    rcases x₂ with _ | ⟨b, x₂⟩
    · exact ⟨rfl, (List.cons.inj h).2⟩
    · rw [List.nil_append, List.cons_append] at h
      exact absurd (List.mem_cons.2 (.inl (List.cons.inj h).1)) h₂
  | cons b x₁ ih =>
    rcases x₂ with _ | ⟨c, x₂⟩
    · rw [List.nil_append, List.cons_append] at h
      exact absurd (List.mem_cons.2 (.inl (List.cons.inj h).1.symm)) h₁
    · rw [List.cons_append, List.cons_append] at h
      obtain ⟨rfl, ht⟩ := List.cons.inj h
      obtain ⟨rfl, rfl⟩ := ih (fun h' => h₁ (List.mem_cons_of_mem b h'))
        (fun h' => h₂ (List.mem_cons_of_mem b h')) ht
      exact ⟨rfl, rfl⟩

namespace Handle

theorem hash_not_mem_toDigits (n : Nat) : '#' ∉ Nat.toDigits 10 n := fun h =>
  absurd (Nat.isDigit_of_mem_toDigits (by decide) (by decide) h) (by decide)

theorem toDigits_inj {n m : Nat} (h : Nat.toDigits 10 n = Nat.toDigits 10 m) : n = m := by
  simpa using congrArg (fun ds => Nat.ofDigitChars 10 ds 0) h

end Handle

namespace Space

variable {s : Space} {h : Handle} {e : Entity}

/-! ### How an entity is shown -/

theorem inspectHandle_of_cls {sc : Option Handle} (he : s.get? h = some e) (hk : e.kind = .cls sc) :
    s.inspectHandle h = e.name.getD ("#<Class:" ++ h.text ++ ">") := by
  rw [inspectHandle, he]
  simp only [hk]

theorem inspectHandle_of_inst (hw : s.WellFormed) {c : Handle} (he : s.get? h = some e)
    (hk : e.kind = .inst c) : s.inspectHandle h = "#<" ++ s.inspectHandle c ++ ":" ++ h.text ++ ">" := by
  rw [inspectHandle, he]
  simp only [hk, if_pos ((hw.slot h e he).cls c hk).1]

theorem inspectHandle_of_single (hw : s.WellFormed) {a : Handle} (he : s.get? h = some e)
    (hk : e.kind = .single a) : s.inspectHandle h = "#<Class:" ++ s.inspectHandle a ++ ">" := by
  rw [inspectHandle, he]
  simp only [hk, if_pos ((hw.slot h e he).attached a hk).1]

theorem toList_slotted (X : String) (h : Handle) : ("#<" ++ X ++ ":" ++ h.text ++ ">").toList =
    '#' :: '<' :: (X.toList ++ ':' :: '#' :: (Nat.toDigits 10 h.slot ++ ['>'])) := by
  simp [Handle.toList_text]

theorem toList_bracketed (X : String) : ("#<Class:" ++ X ++ ">").toList =
    '#' :: '<' :: 'C' :: 'l' :: 'a' :: 's' :: 's' :: ':' :: (X.toList ++ ['>']) := by
  simp

/-- An anonymous class is shown as an instance of `Class` would be, were there one. -/
theorem anonymous_eq_slotted (h : Handle) :
    "#<Class:" ++ h.text ++ ">" = "#<" ++ "Class" ++ ":" ++ h.text ++ ">" := by
  apply String.toList_inj.1
  simp [Handle.toList_text]

/-- Every entity is shown by its name, a qualified constant, after its class as `#<X:#n>`
    with its slot `n`, or, if it is a singleton class, around its attached entity. -/
theorem inspectHandle_cases (hw : s.WellFormed) (hh : s.Live h) :
    (∃ e sc n, s.get? h = some e ∧ e.kind = .cls sc ∧ e.name = some n ∧ s.inspectHandle h = n) ∨
    (∃ X, s.inspectHandle h = "#<" ++ X ++ ":" ++ h.text ++ ">") ∨
    (∃ e a, s.get? h = some e ∧ e.kind = .single a ∧ a.slot < h.slot ∧
      s.inspectHandle h = "#<Class:" ++ s.inspectHandle a ++ ">") := by
  obtain ⟨e, he⟩ := live_iff_get?.1 hh
  rcases hk : e.kind with sc | c | a
  · rcases hn : e.name with _ | n
    · refine .inr (.inl ⟨"Class", ?_⟩)
      rw [inspectHandle_of_cls he hk, hn, Option.getD_none, anonymous_eq_slotted]
    · exact .inl ⟨e, sc, n, he, hk, hn, by rw [inspectHandle_of_cls he hk, hn, Option.getD_some]⟩
  · exact .inr (.inl ⟨_, inspectHandle_of_inst hw he hk⟩)
  · exact .inr (.inr ⟨e, a, he, hk, ((hw.slot h e he).attached a hk).1, inspectHandle_of_single hw he hk⟩)

/-- The slotted form `#<X:#n>` gives back `X` and the slot `n`. -/
theorem slotted_inj {X Y : String} {h h' : Handle}
    (heq : "#<" ++ X ++ ":" ++ h.text ++ ">" = "#<" ++ Y ++ ":" ++ h'.text ++ ">") : X = Y ∧ h = h' := by
  have hl := congrArg (fun t : String => t.toList.reverse) heq
  simp only [toList_slotted, List.reverse_cons, List.reverse_append, List.append_assoc,
    List.reverse_nil, List.nil_append, List.cons_append, List.cons.injEq, true_and] at hl
  -- read from the right: the digits of the slot run back to the `#` before them
  obtain ⟨hdigits, hrest⟩ := List.eq_of_append_cons_eq
    (fun hm => Handle.hash_not_mem_toDigits _ (List.mem_reverse.1 hm))
    (fun hm => Handle.hash_not_mem_toDigits _ (List.mem_reverse.1 hm)) hl
  simp only [List.cons.injEq, List.append_cancel_right_eq, List.reverse_inj, true_and] at hrest hdigits
  exact ⟨String.toList_inj.1 hrest, Handle.eq_iff.2 (Handle.toDigits_inj hdigits)⟩

/-- A slotted form ends with the digits of its slot, and is never the form of a singleton
    class, which ends with `>` or with a name that holds no `#`. -/
theorem slotted_ne_bracketed {X Y : String} {h : Handle}
    (hY : '#' ∉ Y.toList ∨ ∃ Z, Y.toList = Z ++ ['>']) :
    "#<" ++ X ++ ":" ++ h.text ++ ">" ≠ "#<Class:" ++ Y ++ ">" := by
  intro heq
  have hl := congrArg String.toList heq
  rw [toList_slotted, toList_bracketed] at hl
  simp only [List.cons.injEq, true_and] at hl
  have hl' : X.toList ++ ':' :: '#' :: Nat.toDigits 10 h.slot =
      'C' :: 'l' :: 'a' :: 's' :: 's' :: ':' :: Y.toList :=
    List.append_cancel_right (by simpa only [List.append_assoc, List.cons_append] using hl)
  rcases hY with hY | ⟨Z, hZ⟩
  · -- the slot's `#` would be in `Y`
    have hm : '#' ∈ X.toList ++ ':' :: '#' :: Nat.toDigits 10 h.slot := by simp
    rw [hl'] at hm
    simp [hY] at hm
  · -- the slot's last digit would be the closing `>`
    obtain ⟨D, d, hD⟩ := (List.eq_nil_or_concat (Nat.toDigits 10 h.slot)).resolve_left Nat.toDigits_ne_nil
    have hsplit : (X.toList ++ ':' :: '#' :: D) ++ [d] =
        ('C' :: 'l' :: 'a' :: 's' :: 's' :: ':' :: Z) ++ ['>'] := by
      simpa [hD, hZ] using hl'
    have hd : d = '>' := by simpa using (List.append_inj' hsplit rfl).2
    have hdigit : d.isDigit := Nat.isDigit_of_mem_toDigits (b := 10) (n := h.slot) (by decide) (by decide) (by simp [hD])
    rw [hd] at hdigit
    exact absurd hdigit (by decide)

theorem bracketed_inj {X Y : String} (heq : "#<Class:" ++ X ++ ">" = "#<Class:" ++ Y ++ ">") : X = Y := by
  have hl := congrArg String.toList heq
  simp only [toList_bracketed, List.cons.injEq, List.append_cancel_right_eq, true_and] at hl
  exact String.toList_inj.1 hl

/-- A qualified constant is never a text that starts with `#`. -/
theorem ne_of_isQualifiedConstant {m t : String} (hm : Expr.isQualifiedConstant m = true)
    (ht : t.toList.head? = some '#') : m ≠ t := by
  rintro rfl
  obtain ⟨c, r, hcr, hc⟩ := Expr.isConstantName_iff.1 (Expr.isQualifiedConstant_iff.1 hm).1
  rw [hcr, List.head?_cons, Option.some.injEq] at ht
  rw [ht] at hc
  exact absurd hc (by decide)

/-- The names of a space's entities are qualified constants, and no two entities share one. -/
structure WellNamed (s : Space) : Prop where
  qualified : ∀ h e n, s.get? h = some e → e.name = some n → Expr.isQualifiedConstant n = true
  unique : ∀ h h' e e' n, s.get? h = some e → s.get? h' = some e' → e.name = some n →
    e'.name = some n → h = h'

section Shown

variable (hw : s.WellFormed) (hn : s.WellNamed)
include hw hn

/-- An entity is shown by a name, which holds no `#`, or by a text that ends with `>`. -/
theorem inspectHandle_ends (hh : s.Live h) :
    '#' ∉ (s.inspectHandle h).toList ∨ ∃ Z, (s.inspectHandle h).toList = Z ++ ['>'] := by
  rcases inspectHandle_cases hw hh with ⟨e, sc, m, he, hk, hm, hr⟩ | ⟨X, hr⟩ | ⟨e, a, he, hk, ha, hr⟩
  · rw [hr]
    exact .inl (Expr.hash_not_mem_of_isQualifiedConstant (hn.qualified h e m he hm))
  · exact .inr ⟨'#' :: '<' :: (X.toList ++ ':' :: '#' :: Nat.toDigits 10 h.slot), by
      rw [hr, toList_slotted]; simp⟩
  · exact .inr ⟨"#<Class:".toList ++ (s.inspectHandle a).toList, by rw [hr]; simp⟩

/-- An entity is shown by a text that starts with `#` or with a capital letter. -/
theorem head?_inspectHandle (hh : s.Live h) :
    ∃ c, (s.inspectHandle h).toList.head? = some c ∧ (c = '#' ∨ c.isUpper = true) := by
  rcases inspectHandle_cases hw hh with ⟨e, sc, m, he, hk, hm, hr⟩ | ⟨X, hr⟩ | ⟨e, a, he, hk, ha, hr⟩
  · obtain ⟨c, r, hcr, hc⟩ :=
      Expr.isConstantName_iff.1 (Expr.isQualifiedConstant_iff.1 (hn.qualified h e m he hm)).1
    exact ⟨c, by rw [hr, hcr]; rfl, .inr hc⟩
  · exact ⟨'#', by rw [hr, toList_slotted]; rfl, .inl rfl⟩
  · exact ⟨'#', by rw [hr, toList_bracketed]; rfl, .inl rfl⟩

/-- Distinct entities of a well-formed space whose names are qualified constants, each
    naming one entity, are shown differently. -/
theorem inspectHandle_injective {h' : Handle} (hh : s.Live h) (hh' : s.Live h')
    (heq : s.inspectHandle h = s.inspectHandle h') : h = h' := by
  -- strong induction on the slot: a singleton class is shown around the entity it is
  -- attached to, which is in an earlier slot
  induction hs : h.slot using Nat.strongRecOn generalizing h h' with
  | ind n ih =>
  rcases inspectHandle_cases hw hh with ⟨e, sc, m, he, hk, hm, hr⟩ | ⟨X, hr⟩ | ⟨e, a, he, hk, ha, hr⟩ <;>
    rcases inspectHandle_cases hw hh' with
      ⟨e', sc', m', he', hk', hm', hr'⟩ | ⟨X', hr'⟩ | ⟨e', a', he', hk', ha', hr'⟩ <;>
    rw [hr, hr'] at heq
  · -- one name names one entity
    subst heq
    exact hn.unique h h' e e' m he he' hm hm'
  · exact absurd heq (ne_of_isQualifiedConstant (hn.qualified h e m he hm) (by rw [toList_slotted]; rfl))
  · exact absurd heq (ne_of_isQualifiedConstant (hn.qualified h e m he hm) (by rw [toList_bracketed]; rfl))
  · exact absurd heq.symm (ne_of_isQualifiedConstant (hn.qualified h' e' m' he' hm') (by rw [toList_slotted]; rfl))
  · -- the slot is written out
    exact (slotted_inj heq).2
  · exact absurd heq (slotted_ne_bracketed (inspectHandle_ends hw hn (Nat.lt_trans ha' hh')))
  · exact absurd heq.symm (ne_of_isQualifiedConstant (hn.qualified h' e' m' he' hm') (by rw [toList_bracketed]; rfl))
  · exact absurd heq.symm (slotted_ne_bracketed (inspectHandle_ends hw hn (Nat.lt_trans ha hh)))
  · -- two singleton classes, shown around the same entity, which has one singleton class
    obtain rfl : a = a' := ih a.slot (hs ▸ ha) (Nat.lt_trans ha hh) (Nat.lt_trans ha' hh')
      (bracketed_inj heq) rfl
    exact hw.singleton_unique he hk he' hk'

/-- An entity is never shown as a primitive. -/
theorem inspectHandle_ne_display (hh : s.Live h) {v : Value} (hv : v.isPrimitive = true) :
    s.inspectHandle h ≠ v.display := fun heq => by
  obtain ⟨c, hc, hcs⟩ := head?_inspectHandle hw hn hh
  obtain ⟨d, hd, hd₁, hd₂⟩ := v.head?_display hv
  rw [heq, hd, Option.some.injEq] at hc
  subst hc
  rcases hcs with rfl | hup
  · exact hd₁ rfl
  · rw [hd₂] at hup
    exact Bool.false_ne_true hup

/-- Distinct values, primitives or entities of a well-formed space whose names are qualified
    constants, each naming one entity, are shown differently. -/
theorem inspect_injective {v w : Value} (hv : s.LiveValue v) (hw' : s.LiveValue w)
    (heq : s.inspect v = s.inspect w) : v = w := by
  cases v with
  | object x =>
    cases w with
    | object y => exact congrArg Value.object (inspectHandle_injective hw hn hv hw' heq)
    | nil | bool _ | int _ | str _ =>
      simp only [inspect] at heq
      exact absurd heq (inspectHandle_ne_display hw hn hv rfl)
  | nil | bool _ | int _ | str _ =>
    cases w with
    | object y =>
      simp only [inspect] at heq
      exact absurd heq.symm (inspectHandle_ne_display hw hn hw' rfl)
    | nil | bool _ | int _ | str _ => exact Value.display_injective rfl rfl heq

end Shown

/-! ### Evaluation names nothing -/

/-- Every entity of `s'` that has a name had it already, in the same slot, in `s`. -/
def AddsNoNames (s s' : Space) : Prop :=
  ∀ h e' n, s'.get? h = some e' → e'.name = some n → ∃ e, s.get? h = some e ∧ e.name = some n

theorem AddsNoNames.refl (s : Space) : AddsNoNames s s := fun _ e' _ he hn => ⟨e', he, hn⟩

theorem AddsNoNames.trans {s₁ s₂ s₃ : Space} (h₁ : AddsNoNames s₁ s₂) (h₂ : AddsNoNames s₂ s₃) :
    AddsNoNames s₁ s₃ := fun h e n he hn =>
  let ⟨e₂, he₂, hn₂⟩ := h₂ h e n he hn
  h₁ h e₂ n he₂ hn₂

/-- A space that adds no names to a well-named one is well named. -/
theorem WellNamed.of_addsNoNames {s' : Space} (hn : s.WellNamed) (hq : AddsNoNames s s') :
    s'.WellNamed where
  qualified h e n he hname :=
    let ⟨e₀, he₀, hn₀⟩ := hq h e n he hname
    hn.qualified h e₀ n he₀ hn₀
  unique h h' e e' n he he' hname hname' :=
    let ⟨e₀, he₀, hn₀⟩ := hq h e n he hname
    let ⟨e₀', he₀', hn₀'⟩ := hq h' e' n he' hname'
    hn.unique h h' e₀ e₀' n he₀ he₀' hn₀ hn₀'

theorem addsNoNames_push (s : Space) (k : Kind) : AddsNoNames s (s.push ⟨k, none, none⟩) := by
  intro h e' n he hn
  rw [get?_push] at he
  split at he
  · cases he
    cases hn
  · exact ⟨e', he, hn⟩

theorem addsNoNames_attach {h : Handle} (hh : h.slot < s.size) : AddsNoNames s (s.attach h) := by
  intro h' e' n he hn
  rw [get?_attach hh] at he
  split_ifs at he
  · -- the entity that gets the singleton class keeps its name
    obtain ⟨e, he₀, rfl⟩ := Option.map_eq_some_iff.1 he
    exact ⟨e, he₀, hn⟩
  · cases he
    cases hn
  · exact ⟨e', he, hn⟩

theorem addsNoNames_allocate (k : Kind) (s : Space) : AddsNoNames s (after (allocate k none) s) := by
  by_cases hc : s.size < capacity
  · rw [after_of_ok (by rw [allocate_run, if_pos hc])]
    exact addsNoNames_push s k
  · rw [after_of_error (by rw [allocate_run, if_neg hc])]
    exact .refl s

theorem addsNoNames_defineClass (sc : Option Handle) (s : Space) :
    AddsNoNames s (after (defineClass none sc) s) := by
  cases he : s.get? (sc.getD .object) with
  | none =>
    rw [after_of_error (defineClass_run_of_get?_none he)]
    exact .refl s
  | some e =>
    by_cases hok : e.kind.isClass ∧ sc.getD .object ≠ .classClass
    · rw [after, defineClass_run he, if_pos hok, ← after]
      exact addsNoNames_allocate _ s
    · rw [after_of_error (by rw [defineClass_run he, if_neg hok])]
      exact .refl s

theorem addsNoNames_newInstance (c : Handle) (s : Space) :
    AddsNoNames s (after (newInstance c) s) := by
  by_cases hc : c = .classClass
  · subst hc
    rw [after, newInstance_run_classClass, ← after]
    exact addsNoNames_defineClass none s
  · cases he : s.get? c with
    | none =>
      rw [after_of_error (newInstance_run_of_get?_none hc he)]
      exact .refl s
    | some e =>
      by_cases hk : e.kind.isClass
      · rw [after, newInstance_run hc he, if_pos hk, ← after]
        exact addsNoNames_allocate _ s
      · rw [after_of_error (by rw [newInstance_run hc he, if_neg hk])]
        exact .refl s

theorem addsNoNames_singletonClass (h : Handle) (s : Space) :
    AddsNoNames s (after (singletonClass h) s) := by
  cases he : s.get? h with
  | none =>
    rw [after_of_error (singletonClass_run_of_get?_none he)]
    exact .refl s
  | some e =>
    cases ht : e.singleton with
    | some t =>
      rw [after_of_ok (singletonClass_run_of_some he ht)]
      exact .refl s
    | none =>
      by_cases hc : s.size < capacity
      · rw [after_of_ok (by rw [singletonClass_run_of_none he ht, if_pos hc])]
        exact addsNoNames_attach (get?_lt he)
      · rw [after_of_error (by rw [singletonClass_run_of_none he ht, if_neg hc])]
        exact .refl s

theorem addsNoNames_superclassOfHandle (h : Handle) (s : Space) :
    AddsNoNames s (after (superclassOfHandle h) s) :=
  superclassOfHandle_rel AddsNoNames.refl addsNoNames_singletonClass (fun h₁ h₂ => h₁.trans h₂) h s

theorem addsNoNames_superclassOf (v : Value) (s : Space) :
    AddsNoNames s (after (superclassOf v) s) := by
  cases v with
  | object h =>
    have hq := addsNoNames_superclassOfHandle h s
    rw [after, superclassOf_run_object]
    cases hr : (superclassOfHandle h).run s with
    | ok r s' =>
      rw [after_of_ok hr] at hq
      exact hq
    | error f s' =>
      rw [after_of_error hr] at hq
      exact hq
  | nil | bool _ | int _ | str _ => exact .refl s

theorem addsNoNames_identityDescriptor (v : Value) (s : Space) :
    AddsNoNames s (after (identityDescriptor v) s) := by
  cases v with
  | object h =>
    rw [after, identityDescriptor_run_object, ← after, after_map]
    exact addsNoNames_singletonClass h s
  | bool b => cases b <;> exact .refl s
  | nil | int _ | str _ => exact .refl s

theorem addsNoNames_instantiate (v : Value) (s : Space) :
    AddsNoNames s (after (instantiate v) s) := by
  cases v with
  | object h =>
    rw [after, instantiate_run_object, ← after, after_map]
    exact addsNoNames_newInstance h s
  | nil | bool _ | int _ | str _ => exact .refl s

end Space

namespace Expr

open Space

/-- No method of an expression names an entity. -/
theorem Method.addsNoNames_apply (m : Method) (v : Value) (s : Space) :
    AddsNoNames s (after (m.apply v) s) := by
  cases m with
  | cls =>
    rw [apply, after_classOf]
    exact .refl s
  | superclass => exact addsNoNames_superclassOf v s
  | singletonClass => exact addsNoNames_identityDescriptor v s
  | new => exact addsNoNames_instantiate v s
  | name =>
    rw [apply, after_nameOf]
    exact .refl s

theorem addsNoNames_applyAll (ms : List Method) (v : Value) (s : Space) :
    AddsNoNames s (after (applyAll ms v) s) := by
  induction ms generalizing v s with
  | nil => exact .refl s
  | cons m ms ih =>
    rw [applyAll_cons]
    have hq := m.addsNoNames_apply v s
    cases hm : (m.apply v).run s with
    | ok w s' =>
      rw [after_of_ok hm] at hq
      rw [after_bind_of_ok hm]
      exact hq.trans (ih w s')
    | error f s' =>
      rw [after_of_error hm] at hq
      rwa [after_bind_of_error hm]

/-- Evaluating an expression names no entity: the names of the space it leaves are those
    it found. -/
theorem addsNoNames_eval (e : Expr) (ns : Namespace) (s : Space) :
    AddsNoNames s (after (e.eval ns) s) := by
  rw [after_eval]
  cases e.receiver.value ns with
  | ok v => exact addsNoNames_applyAll e.calls v s
  | error f => exact .refl s

end Expr

end ReflectCheck
