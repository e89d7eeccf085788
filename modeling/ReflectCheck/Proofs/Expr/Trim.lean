import Mathlib.Data.List.DropRight
import ReflectCheck.Proofs.Expr.Grammar

/-!
# Blanks around an expression

An expression keeps its text trimmed of blanks, and the scanner skips the same blanks
between tokens (`Text.isBlank` both times). Blanks in front of a text are skipped before
the first token; blanks behind it come after the last token, since no lexeme ends in a
blank (a string literal, the only lexeme that may hold one, ends in its closing quote). So
a text and its trimmed text split into the same tokens (`Expr.tokenizes_trimBlank_iff`).

* `Text.trimBlank_trimBlank`: trimming twice trims once;
* `Expr.parse_trimBlank_eq_ok`: a text and its trimmed text parse as the same expression;
* `Expr.parse_trim_stable`: an expression is shown as its text trimmed, and that text
  parses as the same expression; a text parses exactly when its trimmed text does.
-/

namespace ReflectCheck

namespace Text

theorem toList_trimBlank (s : String) :
    (trimBlank s).toList = (s.toList.dropWhile isBlank).rdropWhile isBlank := by
  simp [trimBlank, List.rdropWhile]

/-- A text is the blanks in front of it, its trimmed text, and the blanks behind it. -/
theorem blanks_around_trimBlank (s : String) :
    ∃ pre suf, s.toList = pre ++ (trimBlank s).toList ++ suf ∧
      (∀ c ∈ pre, isBlank c = true) ∧ ∀ c ∈ suf, isBlank c = true := by
  refine ⟨s.toList.takeWhile isBlank, (s.toList.dropWhile isBlank).rtakeWhile isBlank, ?_,
    fun c hc => List.mem_takeWhile_imp hc, fun c hc => List.mem_rtakeWhile_imp hc⟩
  rw [toList_trimBlank, List.append_assoc, List.rdropWhile_append_rtakeWhile,
    List.takeWhile_append_dropWhile]

/-- Trimming twice trims once: the trimmed text starts with no blank, and the blanks behind
    it are gone. -/
theorem trimBlank_trimBlank (s : String) : trimBlank (trimBlank s) = trimBlank s := by
  apply String.toList_inj.1
  rw [toList_trimBlank, toList_trimBlank]
  -- the trimmed text starts as the text after its front blanks, with no blank
  have hfront : ((s.toList.dropWhile isBlank).rdropWhile isBlank).dropWhile isBlank =
      (s.toList.dropWhile isBlank).rdropWhile isBlank := by
    rcases hr : (s.toList.dropWhile isBlank).rdropWhile isBlank with _ | ⟨c, rest⟩
    · rfl
    · have hc : c ∈ (s.toList.dropWhile isBlank).head? := by
        obtain ⟨t, ht⟩ := hr ▸ List.rdropWhile_prefix (p := isBlank)
          (l := s.toList.dropWhile isBlank)
        rw [← ht]
        rfl
      rw [List.dropWhile_cons_of_neg (Expr.head_dropWhile_not isBlank s.toList c hc)]
  rw [hfront, List.rdropWhile_idempotent]

end Text

namespace Expr

/-! ### No lexeme starts or ends with a blank -/

/-- The last character of a lexeme starts a lexeme too. -/
theorem Lexeme.getLast_startKind {l : List Char} {t : Token} (h : Lexeme l t) :
    ∀ c ∈ l.getLast?, ∃ k, startKind c = some k := by
  intro c hc
  have hmem := List.mem_of_getLast? hc
  cases h with
  | @ident c₀ body hc₀ hb =>
    rcases List.mem_cons.1 hmem with rfl | hd
    · exact ⟨_, startKind_ident hc₀⟩
    · rcases hb c hd with hd | rfl
      · rcases isAlphanum_iff.1 hd with hd | hd
        · exact ⟨_, startKind_ident (.inl hd)⟩
        · exact ⟨_, startKind_int (.inr hd)⟩
      · exact ⟨_, startKind_ident (.inr rfl)⟩
  | @int negative digits hne hd _ _ =>
    -- every character of an integer is its sign or a digit
    rcases List.mem_append.1 hmem with hs | hd'
    · cases negative
      · cases hs
      · exact ⟨_, startKind_int (.inl (List.mem_singleton.1 hs))⟩
    · exact ⟨_, startKind_int (.inr (hd c hd'))⟩
  | str _ =>
    -- a string literal ends in its closing quote
    rw [List.getLast?_append] at hc
    cases Option.some.inj hc
    exact ⟨_, rfl⟩
  | pathSep | dot | openParen | closeParen =>
    simp only [List.mem_cons, List.not_mem_nil, or_false] at hmem
    rcases hmem with rfl | rfl <;> exact ⟨_, rfl⟩

/-- A lexeme does not end in blanks. -/
theorem Lexeme.eq_nil_of_append_blanks {l x bs : List Char} {t : Token} (h : Lexeme l t)
    (hl : l = x ++ bs) (hb : ∀ c ∈ bs, Text.isBlank c = true) : bs = [] := by
  cases hlast : bs.getLast? with
  | none => exact List.getLast?_eq_none_iff.1 hlast
  | some b =>
    obtain ⟨k, hk⟩ := h.getLast_startKind b (by rw [hl, List.getLast?_append, hlast]; rfl)
    exact absurd (hb b (List.mem_of_getLast? hlast)) (not_isBlank_of_startKind hk)

/-! ### Blanks at either end split into no tokens -/

/-- A text that starts with a blank splits as the text after it. -/
theorem Tokenizes.of_blank_cons {c : Char} {rest : List Char} {ts : List Token}
    (h : Tokenizes (c :: rest) ts) (hc : Text.isBlank c = true) : Tokenizes rest ts := by
  generalize hcs : c :: rest = cs at h
  cases h with
  | nil => cases hcs
  | blank _ h' =>
    obtain ⟨rfl, rfl⟩ := List.cons.inj hcs
    exact h'
  | @lexeme l rest' t ts' hl _ _ =>
    -- a lexeme starts with a character that is not blank
    obtain ⟨c', l₀, rfl, hk⟩ := hl.head
    obtain ⟨rfl, -⟩ := List.cons.inj hcs
    exact absurd hc (not_isBlank_of_startKind hk)

/-- Blanks split into no tokens. -/
theorem tokenizes_blanks_iff {cs : List Char} (hb : ∀ c ∈ cs, Text.isBlank c = true)
    {ts : List Token} : Tokenizes cs ts ↔ ts = [] := by
  induction cs with
  | nil =>
    refine ⟨fun h => ?_, fun h => h ▸ .nil⟩
    generalize hcs : ([] : List Char) = cs at h
    cases h with
    | nil => rfl
    | blank => cases hcs
    | lexeme hl =>
      -- a lexeme has a first character
      obtain ⟨c, l₀, rfl, -⟩ := hl.head
      cases hcs
  | cons c cs ih =>
    have hc := hb c List.mem_cons_self
    have ih := ih fun d hd => hb d (List.mem_cons_of_mem c hd)
    exact ⟨fun h => ih.1 (h.of_blank_cons hc), fun h => .blank hc (ih.2 h)⟩

/-- Blanks in front of a text split into no tokens. -/
theorem tokenizes_blanks_append_iff {pre cs : List Char} (hb : ∀ c ∈ pre, Text.isBlank c = true)
    {ts : List Token} : Tokenizes (pre ++ cs) ts ↔ Tokenizes cs ts := by
  induction pre with
  | nil => rfl
  | cons c pre ih =>
    have hc := hb c List.mem_cons_self
    have ih := ih fun d hd => hb d (List.mem_cons_of_mem c hd)
    exact ⟨fun h => ih.1 (h.of_blank_cons hc), fun h => .blank hc (ih.2 h)⟩

theorem Longest.of_append {l rest suf : List Char} (hlong : Longest l (rest ++ suf)) :
    Longest l rest := fun l' t' hl' hpre =>
  hlong l' t' hl' (hpre.trans (by rw [← List.append_assoc]; exact List.prefix_append _ _))

/-- The longest lexeme at its place stays the longest with blanks after the text. -/
theorem Longest.append_blanks {l rest suf : List Char} (hlong : Longest l rest)
    (hsuf : ∀ c ∈ suf, Text.isBlank c = true) : Longest l (rest ++ suf) := by
  intro l' t' hl' ⟨r', hr'⟩
  rw [← List.append_assoc] at hr'
  rcases List.append_eq_append_iff.1 hr' with ⟨as, hlr, -⟩ | ⟨bs, hl'eq, hsufeq⟩
  · exact hlong l' t' hl' ⟨as, hlr.symm⟩
  · -- a lexeme reaching past the text would end in a blank
    have hbs : ∀ c ∈ bs, Text.isBlank c = true := fun c hc =>
      hsuf c (by rw [hsufeq]; exact List.mem_append_left r' hc)
    obtain rfl := hl'.eq_nil_of_append_blanks hl'eq hbs
    exact hlong l' t' hl' ⟨[], by rw [hl'eq, List.append_nil, List.append_nil]⟩

/-- Blanks behind a text split into no tokens: no lexeme ends in a blank. -/
theorem tokenizes_append_blanks_iff {cs suf : List Char} (hsuf : ∀ c ∈ suf, Text.isBlank c = true)
    {ts : List Token} : Tokenizes (cs ++ suf) ts ↔ Tokenizes cs ts := by
  constructor
  · intro h
    generalize hx : cs ++ suf = x at h
    induction h generalizing cs with
    | nil =>
      obtain ⟨rfl, -⟩ := List.append_eq_nil_iff.1 hx
      exact .nil
    | @blank c rest ts hc h' ih =>
      cases cs with
      | nil =>
        -- the blank and the rest belong to the blanks behind
        have hrest : ∀ d ∈ rest, Text.isBlank d = true := fun d hd =>
          hsuf d (by rw [List.nil_append] at hx; rw [hx]; exact List.mem_cons_of_mem c hd)
        rw [(tokenizes_blanks_iff hrest).1 h']
        exact .nil
      | cons d cs =>
        obtain ⟨rfl, hrest⟩ := List.cons.inj hx
        exact .blank hc (ih hrest)
    | @lexeme l rest t ts hl hlong h' ih =>
      rcases List.append_eq_append_iff.1 hx with ⟨as, hlas, hsufas⟩ | ⟨bs, hcs, hrest⟩
      · -- the lexeme ends the text, and what follows it is blank
        have has : ∀ c ∈ as, Text.isBlank c = true := fun c hc =>
          hsuf c (by rw [hsufas]; exact List.mem_append_left rest hc)
        obtain rfl := hl.eq_nil_of_append_blanks hlas has
        have hrest : ∀ c ∈ rest, Text.isBlank c = true := fun c hc =>
          hsuf c (by rw [hsufas]; exact List.mem_append_right [] hc)
        obtain rfl := (tokenizes_blanks_iff hrest).1 h'
        have hlong' : Longest l ([] ++ rest) := hlong
        have hone : Tokenizes (l ++ []) [t] := .lexeme hl hlong'.of_append .nil
        rwa [List.append_nil, hlas, List.append_nil] at hone
      · subst hcs
        rw [hrest] at hlong
        exact .lexeme hl hlong.of_append (ih hrest.symm)
  · intro h
    induction h with
    | nil => exact (tokenizes_blanks_iff hsuf).2 rfl
    | blank hc _ ih => exact .blank hc ih
    | lexeme hl hlong _ ih =>
      rw [List.append_assoc]
      exact .lexeme hl (hlong.append_blanks hsuf) ih

/-- A text and its trimmed text split into the same tokens. -/
theorem tokenizes_trimBlank_iff (s : String) {ts : List Token} :
    Tokenizes (Text.trimBlank s).toList ts ↔ Tokenizes s.toList ts := by
  obtain ⟨pre, suf, hs, hpre, hsuf⟩ := Text.blanks_around_trimBlank s
  rw [hs, tokenizes_append_blanks_iff hsuf, tokenizes_blanks_append_iff hpre]

/-! ### Parsing a trimmed text -/

/-- A text and its trimmed text parse as the same expression. -/
theorem parse_trimBlank_eq_ok {t : String} {e : Expr} :
    parse (Text.trimBlank t) = .ok e ↔ parse t = .ok e := by
  rw [parse_eq_ok_iff_sentence, parse_eq_ok_iff_sentence,
    Text.trimBlank_trimBlank]
  simp only [tokenizes_trimBlank_iff]

/-- An expression is shown as the text it was parsed from, trimmed of blanks, and that text
    parses as the same expression; a text parses exactly when its trimmed text does. -/
theorem parse_trim_stable (t : String) :
    (∀ e, parse t = .ok e → toString e = Text.trimBlank t ∧ parse (toString e) = .ok e) ∧
    ((∃ e, parse t = .ok e) ↔ ∃ e, parse (Text.trimBlank t) = .ok e) := by
  refine ⟨fun e he => ?_, ⟨fun ⟨e, he⟩ => ⟨e, parse_trimBlank_eq_ok.2 he⟩,
    fun ⟨e, he⟩ => ⟨e, parse_trimBlank_eq_ok.1 he⟩⟩⟩
  have htext : toString e = Text.trimBlank t := (parse_eq_ok.1 he).1
  exact ⟨htext, htext ▸ parse_trimBlank_eq_ok.2 he⟩

end Expr

end ReflectCheck
