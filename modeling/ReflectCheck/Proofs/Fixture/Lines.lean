import ReflectCheck.Proofs.Space.Raised
import ReflectCheck.Proofs.Fixture.Names
import ReflectCheck.Proofs.Fixture.Faults

/-!
# The report of a loaded fixture, line by line

The text report of a run of a loaded fixture is read back as one line per outcome, each
starting with the outcome's label, and then the summary line, exactly when the description of
every outcome holds no line feed, unless it is blank (`Fixture.renderText_lines_iff`). A blank
description is shown as `<missing description>`, and every other text of a record stays one
line:

* values are shown as a space whose names are qualified constants shows them
  (`Space.plain_inspect`), and the space of a loaded fixture is such a space at every point of
  its runs;
* a fault raised while an expression is evaluated reads as one line (`Space.Raised`), and so
  does an unknown constant, named by the identifiers of its path;
* a description that does not parse is quoted in its fault, with a reason that quotes only
  characters of the description or its tokens, each shown on one line
  (`Expr.oneLine_message_of_parse_error`).

A description that ends in a line feed parses, its line feed being a blank, but the record's
line copies it, and the report then reads as more lines than it has outcomes and a summary
(`Fixture.feedFixture_report_three_lines`).
-/

namespace ReflectCheck

open Text

namespace Expr

theorem except_map_eq_error {α β : Type} {g : α → β} {x : Except String α} {msg : String}
    (h : g <$> x = .error msg) : x = .error msg := by
  cases x with
  | error e =>
    cases h
    rfl
  | ok a => cases h

/-! ### Why a text does not scan -/

theorem oneLine_of_scanString_error {cs : List Char} (hcs : '\n' ∉ cs) {msg : String}
    (h : scanString cs = .error msg) : OneLine msg := by
  fun_induction scanString cs with
  | case1 =>
    cases h
    decide
  | case2 => cases h
  | case3 =>
    cases h
    decide
  | case4 e rest =>
    cases h
    -- the character after the backslash is a character of the text
    have he : e ≠ '\n' := fun he => hcs (he ▸ .tail _ List.mem_cons_self)
    refine OneLine.append_of_noFeed ?_ (by decide : Plain "`").oneLine (by decide)
    simp [Char.toString, he.symm]
  | case5 e rest _ _ _ _ _ ih =>
    cases h
    exact ih (fun h' => hcs (.tail _ (.tail _ h'))) ‹_›
  | case6 => cases h
  | case7 c rest _ _ _ _ _ ih =>
    cases h
    exact ih (fun h' => hcs (.tail _ h')) ‹_›
  | case8 => cases h

theorem spanWhile_parts {p : Char → Bool} {cs taken r : List Char} {h}
    (hs : spanWhile p cs = ⟨(taken, r), h⟩) : taken <+: cs ∧ r <:+ cs := by
  have hv := spanWhile_val p cs
  rw [hs, Prod.mk.injEq] at hv
  rw [hv.1, hv.2]
  exact ⟨List.takeWhile_prefix p, List.dropWhile_suffix p⟩

theorem oneLine_of_intValue_error {negative : Bool} {digits : List Char} (hd : '\n' ∉ digits)
    {msg : String} (h : intValue negative digits = .error msg) : OneLine msg := by
  -- every failure quotes the literal, before a fixed reason
  have hfail : ∀ sign reason, '\n' ∉ sign → Plain reason → reason.toList ≠ [] →
      OneLine ("invalid integer `" ++ String.ofList (sign ++ digits) ++ "`: " ++ reason) := by
    intro sign reason hs hr hne
    refine OneLine.append_of_noFeed ?_ hr.oneLine hne
    simp [hs, hd]
  unfold intValue at h
  dsimp only at h
  split_ifs at h <;> cases h
  all_goals refine hfail _ _ ?_ ?_ ?_ <;> decide

/-- Why a text with no line feed does not scan reads as one line: it quotes at most a
    character of the text or a literal of it. -/
theorem oneLine_of_scan_error {cs : List Char} (hcs : '\n' ∉ cs) {msg : String}
    (h : scan cs = .error msg) : OneLine msg := by
  fun_induction scan cs with
  | case1 => cases h
  | case2 c rest _ _ ih => exact ih (fun h' => hcs (.tail _ h')) h
  | case3 rest _ _ ih | case4 rest _ _ _ ih | case5 rest _ _ _ _ ih =>
    exact ih (fun h' => hcs (.tail _ h')) (except_map_eq_error h)
  | case6 rest _ _ _ _ _ _ _ ih =>
    exact ih (fun h' => hcs (.tail _ (List.mem_of_mem_tail h'))) (except_map_eq_error h)
  | case7 =>
    cases h
    decide
  | case8 rest _ hs =>
    cases h
    exact oneLine_of_scanString_error (fun h' => hcs (.tail _ h')) hs
  | case9 rest text r hr hs _ _ _ _ _ _ _ ih =>
    -- the text after a string literal is a part of the text
    obtain ⟨raw, -, hraw, -, -⟩ := scanString_sound rest _ hs
    refine ih (fun h' => hcs (.tail _ ?_)) (except_map_eq_error h)
    rw [hraw]
    exact List.mem_append_right _ (.tail _ h')
  | case10 c rest _ _ _ _ _ _ _ _ _ taken r _ hspan _ _ hint =>
    cases h
    refine oneLine_of_intValue_error ?_ hint
    -- the digits of the literal are characters of the text
    have hsub : taken ⊆ c :: rest := fun d hd => .tail _ ((spanWhile_parts hspan).1.subset hd)
    split
    · exact fun h' => hcs (hsub h')
    · rintro (_ | ⟨_, h'⟩)
      · exact hcs List.mem_cons_self
      · exact hcs (hsub h')
  | case11 c rest _ _ _ _ _ _ _ _ _ taken r _ hspan _ _ _ ih =>
    exact ih (fun h' => hcs (.tail _ ((spanWhile_parts hspan).2.subset h'))) (except_map_eq_error h)
  | case12 c rest _ _ _ _ _ _ _ _ _ taken r _ hspan _ ih =>
    exact ih (fun h' => hcs (.tail _ ((spanWhile_parts hspan).2.subset h'))) (except_map_eq_error h)
  | case13 c rest =>
    cases h
    have hc : c ≠ '\n' := fun hc => hcs (hc ▸ List.mem_cons_self)
    refine OneLine.append_of_noFeed ?_ (by decide : Plain "`").oneLine (by decide)
    simp [Char.toString, hc.symm]

/-! ### Why tokens do not parse -/

/-- No identifier among the tokens has a line feed in its name. -/
def IdentsUnbroken (ts : List Token) : Prop := ∀ n, Token.ident n ∈ ts → '\n' ∉ n.toList

theorem IdentsUnbroken.of_suffix {ts ts' : List Token} (h : IdentsUnbroken ts) (hs : ts' <:+ ts) :
    IdentsUnbroken ts' :=
  fun n hn => h n (hs.subset hn)

theorem Token.oneLine_describe {t : Token} (ht : ∀ n, t = .ident n → '\n' ∉ n.toList) :
    OneLine t.describe := by
  cases t with
  | ident n =>
    refine OneLine.append_of_noFeed ?_ (by decide : Plain "`").oneLine (by decide)
    simp [ht n rfl]
  | int v =>
    exact
      (plain_append.2 ⟨plain_append.2 ⟨by decide, plain_toString_int v⟩, by decide⟩).oneLine
  | str text => exact (plain_quote text).oneLine
  | pathSep | dot | openParen | closeParen => decide

theorem parsePath_suffix {ts segs after : List _} (h : parsePath ts = .ok (segs, after)) :
    after <:+ ts := by
  fun_induction parsePath ts generalizing segs with
  | case1 segment rest _ segs' after' hr ih =>
    cases h
    exact (ih hr).trans ((List.suffix_cons _ _).trans (List.suffix_cons _ _))
  | case2 => cases h
  | case3 => cases h
  | case4 => cases h
  | case5 rest =>
    cases h
    exact List.suffix_refl _

theorem oneLine_of_parsePath_error {ts : List Token} {msg : String}
    (h : parsePath ts = .error msg) : OneLine msg := by
  fun_induction parsePath ts with
  | case1 => cases h
  | case2 _ _ _ _ hr ih =>
    cases h
    exact ih hr
  | case3 =>
    cases h
    decide
  | case4 =>
    cases h
    decide
  | case5 => cases h

theorem parseReceiver_suffix {ts rest : List Token} {r : Receiver}
    (h : parseReceiver ts = .ok (r, rest)) : rest <:+ ts := by
  unfold parseReceiver at h
  split at h
  · cases h
  · cases h
    exact List.suffix_cons _ _
  · cases h
    exact List.suffix_cons _ _
  · split_ifs at h
    · cases h
      exact List.suffix_cons _ _
    · cases h
      exact List.suffix_cons _ _
    · cases h
      exact List.suffix_cons _ _
    · split at h
      · cases h
        exact (parsePath_suffix ‹_›).trans (List.suffix_cons _ _)
      · cases h
  · cases h

theorem oneLine_of_parseReceiver_error {ts : List Token} (hts : IdentsUnbroken ts) {msg : String}
    (h : parseReceiver ts = .error msg) : OneLine msg := by
  unfold parseReceiver at h
  split at h
  · cases h
    decide
  · cases h
  · cases h
  · rename_i name rest
    split_ifs at h
    · split at h
      · cases h
      · cases h
        exact oneLine_of_parsePath_error ‹_›
    · cases h
      -- the name is a token of the text
      refine OneLine.append_of_noFeed ?_
        (by decide : Plain "` is not a constant or literal").oneLine (by decide)
      simp [hts name List.mem_cons_self]
  · cases h
    exact (by decide : Plain "unexpected ").oneLine.append
      (Token.oneLine_describe fun n hn => hts n (hn ▸ List.mem_cons_self))

theorem skipEmptyArgs_suffix {ts : List Token} {r : { r : List Token // r.length ≤ ts.length }}
    (h : skipEmptyArgs ts = some r) : r.1 <:+ ts := by
  unfold skipEmptyArgs at h
  split at h
  · cases h
    exact (List.suffix_cons _ _).trans (List.suffix_cons _ _)
  · cases h
  · cases h
    exact List.suffix_refl _

theorem oneLine_of_parseCalls_error {ts : List Token} (hts : IdentsUnbroken ts) {msg : String}
    (h : parseCalls ts = .error msg) : OneLine msg := by
  fun_induction parseCalls ts with
  | case1 => cases h
  | case2 name rest =>
    cases h
    refine OneLine.append_of_noFeed ?_ (by decide : Plain "`").oneLine (by decide)
    simp [hts name (.tail _ List.mem_cons_self)]
  | case3 name rest =>
    cases h
    refine OneLine.append_of_noFeed ?_ (by decide : Plain "` takes no arguments").oneLine
      (by decide)
    simp [hts name (.tail _ List.mem_cons_self)]
  | case4 name rest _ _ after _ hs _ ih =>
    -- the calls after an empty argument list are read from the rest of the tokens
    have hsuf : after <:+ Token.dot :: Token.ident name :: rest :=
      (skipEmptyArgs_suffix hs).trans ((List.suffix_cons _ _).trans (List.suffix_cons _ _))
    exact ih (hts.of_suffix hsuf) (except_map_eq_error h)
  | case5 =>
    cases h
    exact (by decide : Plain "expected method name, found ").oneLine.append
      (Token.oneLine_describe fun n hn => hts n (hn ▸ .tail _ List.mem_cons_self))
  | case6 =>
    cases h
    decide
  | case7 =>
    cases h
    exact (by decide : Plain "expected `.`, found ").oneLine.append
      (Token.oneLine_describe fun n hn => hts n (hn ▸ List.mem_cons_self))

theorem oneLine_of_parseTokens_error {ts : List Token} (hts : IdentsUnbroken ts) {msg : String}
    (h : parseTokens ts = .error msg) : OneLine msg := by
  unfold parseTokens at h
  cases hr : parseReceiver ts with
  | error m =>
    rw [hr] at h
    cases h
    exact oneLine_of_parseReceiver_error hts hr
  | ok p =>
    obtain ⟨receiver, rest⟩ := p
    rw [hr] at h
    change (parseCalls rest >>= fun calls => pure (receiver, calls)) = .error msg at h
    cases hc : parseCalls rest with
    | error m =>
      rw [hc] at h
      cases h
      exact oneLine_of_parseCalls_error (hts.of_suffix (parseReceiver_suffix hr)) hc
    | ok calls =>
      rw [hc] at h
      cases h

/-- A text with no line feed that does not parse is reported on one line: the text, and a
    reason from the scanner or from the grammar. -/
theorem oneLine_message_of_parse_error {t : String} (ht : '\n' ∉ t.toList) {f : Fault}
    (h : parse t = .error f) : OneLine f.message := by
  unfold parse at h
  split at h
  · cases h
  · rename_i reason hr
    cases h
    have hreason : OneLine reason := by
      cases hs : scan t.toList with
      | error m =>
        rw [hs] at hr
        cases hr
        exact oneLine_of_scan_error ht hs
      | ok ts =>
        rw [hs] at hr
        -- the identifiers the scanner reads are made of identifier characters
        have hts : IdentsUnbroken ts := fun n hn hc =>
          absurd ((scan_sound _ ts hs).ident_chars hn '\n' hc) (by decide)
        exact oneLine_of_parseTokens_error hts hr
    show OneLine ("cannot parse `" ++ t ++ "`: " ++ reason)
    exact (OneLine.append_of_noFeed (by simp [ht]) (by decide : Plain "`: ").oneLine
      (by decide)).append hreason

/-! ### Faults of an evaluation -/

open Space

/-- An expression raises the faults of its calls, or an unknown constant for the path it
    names. -/
theorem raises_eval (ns : Namespace) (e : Expr) :
    Raises (fun s f => Raised s f ∨
      ∃ path, e.receiver = .constant path ∧ f = .unknownEntity ("::".intercalate path))
      (e.eval ns) := by
  intro s f s' hr
  rw [eval_run] at hr
  cases hv : e.receiver.value ns with
  | ok v =>
    rw [hv] at hr
    exact .inl (raises_applyAll e.calls v s f s' hr)
  | error g =>
    rw [hv] at hr
    cases hr
    -- a literal always starts the calls; a constant fails only when it is bound nowhere
    cases hrec : e.receiver with
    | literal w =>
      rw [hrec] at hv
      cases hv
    | constant path =>
      rw [hrec] at hv
      exact .inr ⟨path, rfl, Namespace.resolve_error hv⟩

end Expr

theorem Text.plain_intercalate {sep : String} (hsep : Plain sep) :
    ∀ {xs : List String}, (∀ x ∈ xs, Plain x) → Plain (sep.intercalate xs)
  | [], _ => by
    rw [String.intercalate_nil]
    decide
  | [x], h => by
    rw [String.intercalate_singleton]
    exact h x List.mem_cons_self
  | x :: y :: xs, h => by
    rw [String.intercalate_cons_cons]
    exact plain_append.2 ⟨plain_append.2 ⟨h x List.mem_cons_self, hsep⟩,
      plain_intercalate hsep fun z hz => h z (.tail _ hz)⟩

namespace Fixture

open Scope Space

/-- The fault of a description with no line feed, evaluated in a well-named space, reads as
    one line. -/
theorem producerOf_fault_oneLine {d : String} {sc sc' : Scope} {f : Fault}
    (hn : sc.space.WellNamed) (hd : '\n' ∉ d.toList) (hp : producerOf d sc = (.fault f, sc')) :
    OneLine f.message := by
  cases he : Expr.parse d with
  | error g =>
    rw [producerOf_of_parse_error he] at hp
    cases hp
    exact Expr.oneLine_message_of_parse_error hd he
  | ok e =>
    rw [producerOf_of_parse he] at hp
    cases hr : (e.eval sc.names).run sc.space with
    | ok v s =>
      rw [hr] at hp
      cases hp
    | error g s =>
      rw [hr] at hp
      cases hp
      -- the space the evaluation leaves still names its entities by qualified constants
      have hq := Expr.addsNoNames_eval e sc.names sc.space
      rw [after_of_error hr] at hq
      rcases Expr.raises_eval sc.names e _ _ _ hr with hraised | ⟨path, hrec, rfl⟩
      · exact (hraised.plain_message (hn.of_addsNoNames hq)).oneLine
      · -- an unknown constant is named by the identifiers of its path
        have hpath : ∀ x ∈ path, Plain x := fun x hx =>
          Expr.plain_of_isQualifiedConstant (Expr.isQualifiedConstant_of_isConstantIdentifier
            (Expr.isConstantIdentifier_of_parse he hrec x hx))
        show OneLine ("uninitialized constant " ++ "::".intercalate path)
        exact (plain_append.2 ⟨by decide, plain_intercalate (by decide) hpath⟩).oneLine

/-- An example evaluated from a scope whose space is well named leaves a space that is still
    well named, and the fault of its outcome reads as one line when its description, unless
    blank, holds no line feed. -/
theorem evaluate_fault_oneLine {x : Expectation Scope}
    (hx : x.producer = producerOf x.description) {sc sc' : Scope} (hn : sc.space.WellNamed)
    {index : Nat} {o : Outcome} (he : x.evaluate index true sc = (.ok o, sc')) :
    ((isBlankText o.description = false → '\n' ∉ o.description.toList) →
      ∀ fault ∈ o.status.fault?, OneLine fault.message) ∧ sc'.space.WellNamed := by
  have hy := x.evaluate_yields index true sc
  rw [he] at hy
  -- the producer adds no name to the space
  have hq : ∀ {r : Produced}, x.producer sc = (r, sc') → AddsNoNames sc.space sc'.space := by
    intro r hp
    have := addsNoNames_producerOf x.description sc
    rwa [← hx, hp] at this
  cases hy with
  | blank _ =>
    refine ⟨fun _ fault hf => ?_, hn⟩
    cases hf
    show OneLine "expectation has no description"
    decide
  | value _ hp =>
    refine ⟨fun _ fault hf => ?_, hn.of_addsNoNames (hq hp)⟩
    split at hf <;> cases hf
  | fault hw hp =>
    refine ⟨fun hd fault hf => ?_, hn.of_addsNoNames (hq hp)⟩
    cases hf
    -- a description that is evaluated is not blank
    have hb : isBlankText x.description = false := by
      simpa [Expectation.wellFormed] using hw
    rw [hx] at hp
    exact producerOf_fault_oneLine hn (hd hb) hp
  | captured _ hp _ =>
    -- the producer of an example never panics
    rcases producerOf_value_or_fault x.description sc with ⟨v, hv⟩ | ⟨g, hg⟩
    · rw [← hx, hp] at hv
      cases hv
    · rw [← hx, hp] at hg
      cases hg

/-- Every outcome of an evaluation of a sound fixture whose space is well named has a fault
    that reads as one line when its description, unless blank, holds no line feed. -/
theorem Evaluation.perform_faults_oneLine {f : LoadedFixture} (hf : f.Sound)
    (hn : f.scope.space.WellNamed) (ev : Evaluation) :
    ∀ o ∈ (ev.perform f).1,
      (isBlankText o.description = false → '\n' ∉ o.description.toList) →
      ∀ fault ∈ o.status.fault?, OneLine fault.message := by
  obtain ⟨os, sc, hr, hp, -⟩ := ev.perform_sound hf
  rw [hp]
  exact Registry.evalFrom_forall_of_invariant (I := fun sc : Scope => sc.space.WellNamed)
    (fun x hx _ _ _ _ hI he =>
      evaluate_fault_oneLine (hf.examples x (List.mem_of_mem_take hx)).1 hI he)
    hn 0 (by rw [hr])

/-- A record of an outcome, its values shown by inspection in a well-named space, stays one
    line when the outcome's description does and its fault reads as one line. -/
theorem oneLine_record {s : Space} (hn : s.WellNamed) {o : Outcome}
    (hd : isBlankText o.description = false → '\n' ∉ o.description.toList)
    (hfault : ∀ fault ∈ o.status.fault?, OneLine fault.message) :
    OneLine (Record.ofOutcome s.inspect o).line := by
  refine Record.oneLine_line hd (plain_inspect hn _).oneLine (fun a ha => ?_) (fun m hm => ?_)
  · obtain ⟨v, -, rfl⟩ := Option.mem_map.1 ha
    exact (plain_inspect hn v).oneLine
  · obtain ⟨fault, hf, rfl⟩ := Option.mem_map.1 hm
    exact hfault fault hf

open LoadedFixture in
/-- The text report of a run of a loaded fixture reads back as one line per outcome, each
    starting with the label of its status, and then the summary line, exactly when no outcome
    has a description that is not blank and holds a line feed. This holds for every
    evaluation, every one of the examples or the first `k`, after any others, with the values
    shown as the fixture's space shows them at any point of its runs. -/
theorem renderText_lines_iff {text : String} {path : Option String} {f : LoadedFixture}
    (hf : fromToml text path = .ok f) (before : List Evaluation) (ev : Evaluation)
    (evs : List Evaluation) :
    let r := RunReport.ofOutcomes (ev.perform (f.evaluateAll before)).1
    let g := f.evaluateAll evs
    (lines (g.renderText r) = (r.records g.inspect).map Record.line ++ [r.summary.line] ↔
      ∀ o ∈ r.outcomes, isBlankText o.description = false → '\n' ∉ o.description.toList) ∧
    ∀ rec ∈ r.records g.inspect, ∃ rest, rec.line = rec.status.label ++ rest := by
  intro r g
  obtain ⟨hS, -, -⟩ := evaluateAll_sound (fromToml_sound hf) before
  have hfaults := Evaluation.perform_faults_oneLine hS (evaluateAll_wellNamed hf before) ev
  have hn := evaluateAll_wellNamed hf evs
  refine ⟨?_, fun rec _ => rec.line_eq_label_append⟩
  rw [LoadedFixture.renderText, RunReport.lines_renderText_iff]
  constructor
  · -- a description with a line feed would break its record's line
    intro h o ho hb
    exact Record.noFeed_description (h _ (List.mem_map_of_mem ho)) hb
  · intro hd rec hrec
    obtain ⟨o, ho, rfl⟩ := List.mem_map.1 hrec
    exact oneLine_record hn (hd o ho) (hfaults o ho (hd o ho))

/-- A fixture whose one example is described with a line feed at its end. -/
def feedFixture : String :=
  "name = \"lines\"\n\n[[examples]]\ndescription = \"Object\\n\"\nexpected = \"Object\"\n"

/-- The report of a run of the fixture is not one line for its example and the summary line:
    the example's description holds a line feed and is not blank. -/
theorem feedFixture_report_breaks :
    ∃ f, LoadedFixture.fromToml feedFixture none = .ok f ∧
      lines (f.renderText (RunReport.ofOutcomes (Evaluation.all.perform f).1)) ≠
        ((RunReport.ofOutcomes (Evaluation.all.perform f).1).records f.inspect).map Record.line ++
          [(RunReport.ofOutcomes (Evaluation.all.perform f).1).summary.line] := by
  have hfeed : (match LoadedFixture.fromToml feedFixture none with
      | .ok f => (Evaluation.all.perform f).1.any fun o =>
          !isBlankText o.description && o.description.toList.contains '\n'
      | .error _ => false) = true := by decide +kernel
  cases hf : LoadedFixture.fromToml feedFixture none with
  | error e =>
    rw [hf] at hfeed
    exact absurd hfeed Bool.false_ne_true
  | ok f =>
    rw [hf] at hfeed
    obtain ⟨o, ho, hb⟩ := List.any_eq_true.1 hfeed
    simp only [Bool.and_eq_true, Bool.not_eq_true', List.contains_iff_mem] at hb
    have hlaw := renderText_lines_iff hf [] .all []
    dsimp only at hlaw
    exact ⟨f, rfl, fun hlines => hlaw.1.1 hlines o ho hb.1 hb.2⟩

/-- The fixture loads and its example passes, but the report of a run reads as three lines,
    not as one line for the example and the summary line. -/
theorem feedFixture_report_three_lines :
    ∃ f, LoadedFixture.fromToml feedFixture none = .ok f ∧
      (Evaluation.all.perform f).1.length = 1 ∧
      (lines ((Evaluation.all.perform f).2.renderText
        (RunReport.ofOutcomes (Evaluation.all.perform f).1))).length = 3 := by
  have hrun : (match LoadedFixture.fromToml feedFixture none with
      | .ok f => decide ((Evaluation.all.perform f).1.length = 1 ∧
          (lines ((Evaluation.all.perform f).2.renderText
            (RunReport.ofOutcomes (Evaluation.all.perform f).1))).length = 3)
      | .error _ => false) = true := by decide +kernel
  cases hf : LoadedFixture.fromToml feedFixture none with
  | error e =>
    rw [hf] at hrun
    exact absurd hrun Bool.false_ne_true
  | ok f =>
    rw [hf] at hrun
    exact ⟨f, rfl, of_decide_eq_true hrun⟩

end Fixture

end ReflectCheck
