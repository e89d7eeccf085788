import ReflectCheck.Proofs.Expr.Lexing
import ReflectCheck.Proofs.Expr.Replay

/-!
# The grammar of expressions

The grammar of expressions over tokens, stated apart from the parser:

```
expr     := receiver call*
receiver := int | string | nil | true | false | C (:: C)*
call     := . method ( "(" ")" )?
```

where a constant `C` is an identifier whose first character is an ASCII capital letter.
Each sentence stands for the receiver and the calls it spells (`Expr.Sentence`).

* `Expr.parseTokens_eq_ok_iff`: the parser reads exactly the sentences of the grammar, with
  the receiver and calls they stand for;
* `Expr.Sentence.intsApart`: no sentence has two integers in a row, so the tokens of a
  sentence, longest match first, are what `scan` reads (`Expr.scan_complete`);
* `Expr.parse_iff_sentence`: `parse` succeeds on a text exactly when its tokens, longest
  match first, form a sentence; the expression keeps the text trimmed of blanks, and a
  failure quotes the text as given.
-/

namespace ReflectCheck.Expr

/-! ### The grammar -/

/-- The further segments `:: C` of a constant path. -/
inductive SegmentToks : List Token → List String → Prop
  | nil : SegmentToks [] []
  | cons {name : String} {ts : List Token} {path : List String} : isConstantName name = true →
      SegmentToks ts path → SegmentToks (.pathSep :: .ident name :: ts) (name :: path)

/-- The tokens of a receiver, and the receiver they stand for. -/
inductive ReceiverToks : List Token → Receiver → Prop
  | int (value : Int) : ReceiverToks [.int value] (.literal (.int value))
  | str (text : String) : ReceiverToks [.str text] (.literal (.str text))
  | nil : ReceiverToks [.ident "nil"] (.literal .nil)
  | bool (b : Bool) : ReceiverToks [.ident (toString b)] (.literal (.bool b))
  | constant {name : String} {ts : List Token} {path : List String} :
      isConstantName name = true → SegmentToks ts path →
      ReceiverToks (.ident name :: ts) (.constant (name :: path))

/-- The tokens of a call, with or without an empty argument list. -/
inductive CallToks : List Token → Method → Prop
  | bare (m : Method) : CallToks [.dot, .ident m.text] m
  | empty (m : Method) : CallToks [.dot, .ident m.text, .openParen, .closeParen] m

/-- The tokens of the calls after the receiver. -/
inductive CallsToks : List Token → List Method → Prop
  | nil : CallsToks [] []
  | cons {cs ts : List Token} {m : Method} {ms : List Method} : CallToks cs m →
      CallsToks ts ms → CallsToks (cs ++ ts) (m :: ms)

/-- A sentence of the grammar: the tokens of a receiver, then those of its calls. -/
inductive Sentence : List Token → Receiver → List Method → Prop
  | mk {rs cs : List Token} {r : Receiver} {ms : List Method} : ReceiverToks rs r →
      CallsToks cs ms → Sentence (rs ++ cs) r ms

/-! ### Methods by name -/

theorem Method.ofText?_text (m : Method) : Method.ofText? m.text = some m := by
  cases m <;> decide

theorem Method.text_of_ofText? {name : String} {m : Method} (h : Method.ofText? name = some m) :
    name = m.text := by
  unfold Method.ofText? at h
  split_ifs at h with h₁ h₂ h₃ h₄ h₅ <;> cases h
  · exact h₁
  · exact h₂
  · exact h₃
  · exact h₄
  · exact h₅

/-- The names of the literals are not constant names. -/
theorem isConstantName_literal {name : String} (h : isConstantName name = true) :
    name ≠ "nil" ∧ name ≠ "true" ∧ name ≠ "false" := by
  refine ⟨?_, ?_, ?_⟩ <;> (rintro rfl; cases h)

/-! ### Constant paths -/

/-- `parsePath` reads segments up to the first token that does not continue the path. -/
theorem parsePath_sound (ts : List Token) :
    ∀ path after, parsePath ts = .ok (path, after) →
      ∃ pre, ts = pre ++ after ∧ SegmentToks pre path := by
  fun_induction parsePath ts with
  | case1 segment rest hc segments after hs ih =>
    rintro path after ⟨⟩
    obtain ⟨pre, rfl, hpre⟩ := ih segments after hs
    exact ⟨.pathSep :: .ident segment :: pre, rfl, .cons hc hpre⟩
  | case2 | case3 | case4 =>
    rintro path after ⟨⟩
  | case5 rest =>
    rintro path after ⟨⟩
    exact ⟨[], rfl, .nil⟩

/-- Where the path is followed by no `::`, `parsePath` reads all its segments. -/
theorem parsePath_complete {ts after : List Token} {path : List String}
    (h : SegmentToks ts path) (hafter : ∀ t ∈ after.head?, t ≠ .pathSep) :
    parsePath (ts ++ after) = .ok (path, after) := by
  induction h with
  | nil =>
    cases after with
    | nil => rfl
    | cons t rest =>
      have ht : t ≠ .pathSep := hafter t rfl
      cases t <;> first | exact absurd rfl ht | rfl
  | @cons name ts path hc _ ih =>
    simp only [List.cons_append, parsePath, hc, if_true, ih]

/-! ### Receivers -/

/-- `parseReceiver` reads the tokens of a receiver at the front. -/
theorem parseReceiver_sound {ts rest : List Token} {r : Receiver}
    (h : parseReceiver ts = .ok (r, rest)) : ∃ pre, ts = pre ++ rest ∧ ReceiverToks pre r := by
  revert h
  fun_cases parseReceiver ts with
  | case1 | case8 | case9 | case10 => rintro ⟨⟩
  | case2 value rest' =>
    rintro ⟨⟩
    exact ⟨_, rfl, .int value⟩
  | case3 text rest' =>
    rintro ⟨⟩
    exact ⟨_, rfl, .str text⟩
  | case4 rest' =>
    rintro ⟨⟩
    exact ⟨_, rfl, .nil⟩
  | case5 rest' =>
    rintro ⟨⟩
    exact ⟨_, rfl, .bool true⟩
  | case6 rest' =>
    rintro ⟨⟩
    exact ⟨_, rfl, .bool false⟩
  | case7 name rest' _ _ _ hc segments after hs =>
    rintro ⟨⟩
    obtain ⟨pre, rfl, hpre⟩ := parsePath_sound rest' segments rest hs
    exact ⟨.ident name :: pre, rfl, .constant hc hpre⟩

/-- Where a receiver is followed by no `::`, `parseReceiver` reads it. -/
theorem parseReceiver_complete {rs cs : List Token} {r : Receiver} (h : ReceiverToks rs r)
    (hcs : ∀ t ∈ cs.head?, t ≠ .pathSep) : parseReceiver (rs ++ cs) = .ok (r, cs) := by
  cases h with
  | int value => rfl
  | str text => rfl
  | nil => rfl
  | bool b => cases b <;> rfl
  | constant hc hseg =>
    obtain ⟨hnil, htrue, hfalse⟩ := isConstantName_literal hc
    simp [parseReceiver, hnil, htrue, hfalse, hc, parsePath_complete hseg hcs]

/-! ### Calls -/

theorem skipEmptyArgs_eq_some {ts after : List Token} {h : after.length ≤ ts.length}
    (hs : skipEmptyArgs ts = some ⟨after, h⟩) :
    ts = .openParen :: .closeParen :: after ∨ (ts = after ∧ ∀ t ∈ ts.head?, t ≠ .openParen) := by
  unfold skipEmptyArgs at hs
  split at hs
  · cases hs
    exact .inl rfl
  · cases hs
  · cases hs
    refine .inr ⟨rfl, ?_⟩
    rintro t ht rfl
    obtain ⟨tail, rfl⟩ := List.head?_eq_some_iff.1 ht
    rename_i hne
    exact hne tail rfl

theorem skipEmptyArgs_of_head {ts : List Token} (h : ∀ t ∈ ts.head?, t ≠ .openParen) :
    skipEmptyArgs ts = some ⟨ts, Nat.le_refl _⟩ := by
  cases ts with
  | nil => rfl
  | cons t rest =>
    have ht : t ≠ .openParen := h t rfl
    cases t <;> first | exact absurd rfl ht | rfl

/-- Calls start with a dot. -/
theorem CallsToks.head {ts : List Token} {ms : List Method} (h : CallsToks ts ms) :
    ∀ t ∈ ts.head?, t = .dot := by
  cases h with
  | nil => simp
  | cons hc _ => cases hc <;> simp

/-- `parseCalls` reads calls up to the end of the tokens. -/
theorem parseCalls_sound (ts : List Token) : ∀ ms, parseCalls ts = .ok ms → CallsToks ts ms := by
  fun_induction parseCalls ts with
  | case1 =>
    rintro ms ⟨⟩
    exact .nil
  | case2 | case3 | case5 | case6 | case7 =>
    rintro ms ⟨⟩
  | case4 name rest m hm after _ hs _ ih =>
    intro ms h
    obtain ⟨ms', hms, rfl⟩ := except_map_eq_ok h
    obtain rfl := Method.text_of_ofText? hm
    rcases skipEmptyArgs_eq_some hs with rfl | ⟨rfl, -⟩
    · exact .cons (.empty m) (ih ms' hms)
    · exact .cons (.bare m) (ih ms' hms)

/-- `parseCalls` reads every sequence of calls. -/
theorem parseCalls_complete {ts : List Token} {ms : List Method} (h : CallsToks ts ms) :
    parseCalls ts = .ok ms := by
  induction h with
  | nil => rw [parseCalls.eq_1]
  | @cons cs ts m ms hc htail ih =>
    cases hc with
    | bare m =>
      have hs : skipEmptyArgs ts = some ⟨ts, Nat.le_refl _⟩ :=
        skipEmptyArgs_of_head fun t ht h => by cases h.symm.trans (htail.head t ht)
      simp only [List.cons_append, List.nil_append, parseCalls.eq_2, Method.ofText?_text, hs, ih]
      rfl
    | empty m =>
      have hs : skipEmptyArgs (.openParen :: .closeParen :: ts) =
          some ⟨ts, by simp only [List.length_cons]; omega⟩ := rfl
      simp only [List.cons_append, List.nil_append, parseCalls.eq_2, Method.ofText?_text, hs, ih]
      rfl

/-! ### Sentences -/

/-- The parser reads exactly the sentences of the grammar, with the receiver and the calls
    they stand for. -/
theorem parseTokens_eq_ok_iff {ts : List Token} {r : Receiver} {ms : List Method} :
    parseTokens ts = .ok (r, ms) ↔ Sentence ts r ms := by
  constructor
  · intro h
    obtain ⟨⟨r', rest⟩, hr, h⟩ := except_bind_eq_ok h
    obtain ⟨ms', hms, h⟩ := except_bind_eq_ok h
    cases h
    obtain ⟨pre, rfl, hpre⟩ := parseReceiver_sound hr
    exact .mk hpre (parseCalls_sound rest ms hms)
  · rintro ⟨hr, hc⟩
    have hcs : ∀ t ∈ _, t ≠ Token.pathSep := fun t ht h => by cases h.symm.trans (hc.head t ht)
    rw [parseTokens, parseReceiver_complete hr hcs]
    show (parseCalls _ >>= fun calls => pure (r, calls)) = _
    rw [parseCalls_complete hc]
    rfl

/-- Tokens with no integer among them. -/
def NoInt (ts : List Token) : Prop := ∀ t ∈ ts, t.kind ≠ .int

theorem SegmentToks.noInt {ts : List Token} {path : List String} (h : SegmentToks ts path) :
    NoInt ts := by
  induction h with
  | nil => simp [NoInt]
  | cons _ _ ih =>
    intro t ht
    simp only [List.mem_cons] at ht
    rcases ht with rfl | rfl | ht
    · simp [Token.kind]
    · simp [Token.kind]
    · exact ih t ht

theorem CallsToks.noInt {ts : List Token} {ms : List Method} (h : CallsToks ts ms) :
    NoInt ts := by
  induction h with
  | nil => simp [NoInt]
  | cons hc _ ih =>
    intro t ht
    rcases List.mem_append.1 ht with ht | ht
    · cases hc <;> simp at ht <;> rcases ht with rfl | rfl | rfl | rfl <;> simp [Token.kind]
    · exact ih t ht

/-- Only the receiver can be an integer. -/
theorem Sentence.noInt_tail {ts : List Token} {r : Receiver} {ms : List Method}
    (h : Sentence ts r ms) : NoInt ts.tail := by
  obtain ⟨hr, hc⟩ := h
  cases hr with
  | int | str | nil | bool => exact hc.noInt
  | constant _ hseg =>
    intro t ht
    rcases List.mem_append.1 ht with ht | ht
    · exact hseg.noInt t ht
    · exact hc.noInt t ht

theorem intsApart_of_noInt_tail {ts : List Token} (h : NoInt ts.tail) : IntsApart ts := by
  induction ts with
  | nil => exact List.isChain_nil
  | cons a ts ih =>
    refine List.isChain_cons.2 ⟨fun b hb hab => h b (List.mem_of_mem_head? hb) hab.2, ih ?_⟩
    intro t ht
    exact h t (List.mem_of_mem_tail ht)

/-- No sentence has two integers in a row. -/
theorem Sentence.intsApart {ts : List Token} {r : Receiver} {ms : List Method}
    (h : Sentence ts r ms) : IntsApart ts :=
  intsApart_of_noInt_tail h.noInt_tail

/-! ### Parsing a text -/

/-- A text that does not parse fails as itself, with the reason. -/
theorem parse_error {text : String} {f : Fault} (h : parse text = .error f) :
    ∃ reason, f = .unparsable text reason := by
  unfold parse at h
  split at h
  · cases h
  · cases h
    exact ⟨_, rfl⟩

theorem parse_eq_ok {text : String} {e : Expr} :
    parse text = .ok e ↔
      e.text = Text.trimBlank text ∧ (scan text.toList >>= parseTokens) = .ok (e.receiver, e.calls) := by
  unfold parse
  split
  · rename_i receiver calls hp
    rw [hp]
    constructor
    · rintro ⟨⟩
      exact ⟨rfl, rfl⟩
    · rintro ⟨htext, h⟩
      cases e
      cases h
      cases htext
      rfl
  · rename_i reason hp
    rw [hp]
    simp

theorem parse_eq_ok_iff_sentence {text : String} {e : Expr} :
    parse text = .ok e ↔ e.text = Text.trimBlank text ∧
      ∃ ts, Tokenizes text.toList ts ∧ Sentence ts e.receiver e.calls := by
  rw [parse_eq_ok]
  constructor
  · rintro ⟨htext, h⟩
    obtain ⟨ts, hts, hp⟩ := except_bind_eq_ok h
    exact ⟨htext, ts, scan_sound _ ts hts, parseTokens_eq_ok_iff.1 hp⟩
  · rintro ⟨htext, ts, hts, hs⟩
    refine ⟨htext, ?_⟩
    rw [scan_complete hts hs.intsApart]
    exact parseTokens_eq_ok_iff.2 hs

/-- A text parses exactly when its tokens, longest match first, form a sentence of the
    grammar: the expression then has the receiver and calls the sentence stands for and keeps
    the text trimmed of blanks. A text that does not parse is reported with the text as
    given. -/
theorem parse_iff_sentence (text : String) :
    (∀ e, parse text = .ok e ↔ e.text = Text.trimBlank text ∧
      ∃ ts, Tokenizes text.toList ts ∧ Sentence ts e.receiver e.calls) ∧
    (∀ f, parse text = .error f → ∃ reason, f = .unparsable text reason) :=
  ⟨fun _ => parse_eq_ok_iff_sentence, fun _ => parse_error⟩

end ReflectCheck.Expr
