import Mathlib.Data.Nat.Digits.Defs
import Mathlib.Data.List.Induction
import Mathlib.Data.List.Chain
import Mathlib.Data.List.TakeWhile
import ReflectCheck.Expr.Basic

/-!
# The tokens of an expression, longest match first

The lexical grammar of expressions, stated apart from the scanner. A lexeme is a run of
characters that stands for a token (`Expr.Lexeme`): an identifier `[A-Za-z_][A-Za-z0-9_]*`,
an integer (an optional minus sign and ASCII digits, whose value lies in the signed 64-bit
range), a double-quoted string whose only escapes are `\n`, `\t`, `\"` and `\\`, the path
separator `::`, the dot, and the two parentheses. A text splits into tokens longest match
first (`Expr.Tokenizes`): blank characters (`Text.isBlank`, Unicode `White_Space`) may stand
between lexemes, and each lexeme is the longest one at its place (`Expr.Longest`).

* `Expr.Lexeme.head`: the first character of a lexeme decides the kind of its token;
* `Expr.scan_sound`: what `scan` reads is such a splitting of the text;
* `Expr.scan_complete`: a splitting in which no integer follows another at once is what
  `scan` reads. (The splitting of a run of digits too long for the signed 64-bit range has
  integers one after the other, where `scan` refuses the run.)
-/

namespace ReflectCheck

/-! ### Blank characters -/

namespace Text

/-- A search answers `true` only for a code point that some range holds. -/
theorem RangeTable.search_mem {t : RangeTable} {c lo hi : Nat} (h : t.search c lo hi = true) :
    t.Mem c := by
  fun_induction RangeTable.search t c lo hi with
  | case1 => simp at h
  | case2 _ _ _ _ _ _ _ _ ih => exact ih h
  | case3 _ _ _ _ _ _ _ _ _ ih => exact ih h
  | case4 lo hi hlt mid first last hget hc hl =>
    exact ⟨(first, last), Array.mem_toList_iff.2 (Array.mem_of_getElem? hget),
      Nat.le_of_not_lt hc, Nat.le_of_not_lt hl⟩
  | case5 => simp at h

/-- Blank characters are the ASCII controls from tab to carriage return, the space, and
    characters beyond ASCII. -/
theorem toNat_of_isBlank {c : Char} (h : isBlank c = true) : c.toNat ≤ 32 ∨ 133 ≤ c.toNat := by
  obtain ⟨r, hr, h₁, h₂⟩ := RangeTable.search_mem h
  simp only [blank, List.mem_cons, List.mem_nil_iff, or_false] at hr
  rcases hr with rfl | rfl | rfl | rfl | rfl | rfl | rfl | rfl | rfl | rfl <;> simp at h₁ h₂ <;> omega

/-- A printable ASCII character other than the space is not blank. -/
theorem isBlank_eq_false {c : Char} (h₁ : 33 ≤ c.toNat) (h₂ : c.toNat ≤ 126) :
    isBlank c = false := by
  cases hb : isBlank c
  · rfl
  · rcases toNat_of_isBlank hb with h | h <;> omega

end Text

namespace Expr

/-! ### Character classes, by code point -/

theorem isDigit_iff {c : Char} : c.isDigit = true ↔ 48 ≤ c.toNat ∧ c.toNat ≤ 57 := by
  simp [Char.isDigit, UInt32.le_iff_toNat_le, ← Char.toNat_val]

theorem isAlpha_iff {c : Char} :
    c.isAlpha = true ↔ (65 ≤ c.toNat ∧ c.toNat ≤ 90) ∨ (97 ≤ c.toNat ∧ c.toNat ≤ 122) := by
  -- unfolded by `show`: the equation lemmas of these library functions are declared in
  -- library modules this one does not import
  show (decide (c.val ≥ 'A'.val ∧ c.val ≤ 'Z'.val) ||
    (decide (c.val ≥ 'a'.val) && decide (c.val ≤ 'z'.val))) = true ↔ _
  simp [UInt32.le_iff_toNat_le, ← Char.toNat_val]

theorem isAlphanum_iff {c : Char} : c.isAlphanum = true ↔ c.isAlpha = true ∨ c.isDigit = true := by
  simp [Char.isAlphanum]

theorem char_eq_iff {c d : Char} : c = d ↔ c.toNat = d.toNat := Char.toNat_inj.symm

/-! ### The lexical grammar -/

/-- The escapes of string literals: the character after the backslash, and the one it
    stands for. -/
inductive Escape : Char → Char → Prop
  | newline : Escape 'n' '\n'
  | tab : Escape 't' '\t'
  | quote : Escape '"' '"'
  | backslash : Escape '\\' '\\'

/-- The body of a string literal up to its closing quote, and the text it stands for: a
    character other than a quote or a backslash stands for itself, and a backslash starts
    an escape. -/
inductive StrBody : List Char → List Char → Prop
  | nil : StrBody [] []
  | plain {c : Char} {raw text : List Char} : c ≠ '"' → c ≠ '\\' → StrBody raw text →
      StrBody (c :: raw) (c :: text)
  | escape {e d : Char} {raw text : List Char} : Escape e d → StrBody raw text →
      StrBody ('\\' :: e :: raw) (d :: text)

/-- The value of a run of decimal digits, most significant first. -/
def decimalValue (digits : List Char) : Nat :=
  Nat.ofDigits 10 (digits.reverse.map fun d => d.toNat - '0'.toNat)

/-- The integer that a run of digits denotes, negated when it follows a minus sign. -/
def signedValue (negative : Bool) (digits : List Char) : Int :=
  if negative then -(decimalValue digits : Int) else decimalValue digits

/-- The lexemes of expressions, and the token each stands for. -/
inductive Lexeme : List Char → Token → Prop
  /-- An identifier: a letter or `_`, then letters, digits and `_`. -/
  | ident {c : Char} {body : List Char} : (c.isAlpha ∨ c = '_') →
      (∀ d ∈ body, d.isAlphanum ∨ d = '_') →
      Lexeme (c :: body) (.ident (String.ofList (c :: body)))
  /-- An integer: an optional minus sign and ASCII digits, within the signed 64-bit range. -/
  | int {negative : Bool} {digits : List Char} : digits ≠ [] → (∀ d ∈ digits, d.isDigit) →
      int64Min ≤ signedValue negative digits → signedValue negative digits ≤ int64Max →
      Lexeme ((if negative then ['-'] else []) ++ digits) (.int (signedValue negative digits))
  /-- A string literal, standing for the text its body decodes to. -/
  | str {raw text : List Char} : StrBody raw text →
      Lexeme ('"' :: raw ++ ['"']) (.str (String.ofList text))
  | pathSep : Lexeme [':', ':'] .pathSep
  | dot : Lexeme ['.'] .dot
  | openParen : Lexeme ['('] .openParen
  | closeParen : Lexeme [')'] .closeParen

/-- `l` is the longest lexeme at the front of `l ++ rest`. -/
def Longest (l rest : List Char) : Prop :=
  ∀ l' t', Lexeme l' t' → l' <+: l ++ rest → l'.length ≤ l.length

/-- A text splits into tokens, the longest lexeme first, with blanks between them. -/
inductive Tokenizes : List Char → List Token → Prop
  | nil : Tokenizes [] []
  | blank {c : Char} {rest : List Char} {ts : List Token} : Text.isBlank c = true →
      Tokenizes rest ts → Tokenizes (c :: rest) ts
  | lexeme {l rest : List Char} {t : Token} {ts : List Token} : Lexeme l t → Longest l rest →
      Tokenizes rest ts → Tokenizes (l ++ rest) (t :: ts)

/-! ### The first character decides the kind -/

namespace Token

/-- Which class of lexemes a token comes from. -/
inductive Kind where
  | ident | int | str | pathSep | dot | openParen | closeParen
  deriving DecidableEq

/-- The class of lexemes the token comes from. -/
def kind : Token → Kind
  | .ident _ => .ident
  | .int _ => .int
  | .str _ => .str
  | .pathSep => .pathSep
  | .dot => .dot
  | .openParen => .openParen
  | .closeParen => .closeParen

end Token

/-- The kind of the lexemes that start with `c`, if any lexeme does. -/
def startKind (c : Char) : Option Token.Kind :=
  if c = '.' then some .dot
  else if c = '(' then some .openParen
  else if c = ')' then some .closeParen
  else if c = ':' then some .pathSep
  else if c = '"' then some .str
  else if c = '-' ∨ c.isDigit then some .int
  else if c.isAlpha ∨ c = '_' then some .ident
  else none

theorem startKind_int {c : Char} (hc : c = '-' ∨ c.isDigit = true) : startKind c = some .int := by
  rcases hc with rfl | hc
  · rfl
  · rw [isDigit_iff] at hc
    simp only [startKind, char_eq_iff, isDigit_iff, isAlpha_iff]
    split_ifs <;> simp_all

theorem startKind_ident {c : Char} (hc : c.isAlpha = true ∨ c = '_') :
    startKind c = some .ident := by
  rw [isAlpha_iff] at hc
  simp only [startKind, char_eq_iff, isDigit_iff, isAlpha_iff] at hc ⊢
  split_ifs <;> simp_all
  omega

/-- Every lexeme starts with a printable ASCII character that decides its kind. -/
theorem Lexeme.head {l : List Char} {t : Token} (h : Lexeme l t) :
    ∃ c rest, l = c :: rest ∧ startKind c = some t.kind := by
  cases h with
  | ident hc _ => exact ⟨_, _, rfl, startKind_ident hc⟩
  | @int negative digits hne hd _ _ =>
    cases negative with
    | true => exact ⟨'-', digits, rfl, rfl⟩
    | false =>
      obtain ⟨d, ds, rfl⟩ := List.exists_cons_of_ne_nil hne
      exact ⟨d, ds, rfl, startKind_int (.inr (hd d List.mem_cons_self))⟩
  | str _ => exact ⟨_, _, rfl, rfl⟩
  | pathSep | dot | openParen | closeParen => exact ⟨_, _, rfl, rfl⟩

/-- A character that starts a lexeme is not blank. -/
theorem isBlank_of_startKind {c : Char} {k : Token.Kind} (h : startKind c = some k) :
    Text.isBlank c = false := by
  have hr : 33 ≤ c.toNat ∧ c.toNat ≤ 126 := by
    simp only [startKind, char_eq_iff, isDigit_iff, isAlpha_iff] at h
    split_ifs at h <;> simp_all <;> omega
  exact Text.isBlank_eq_false hr.1 hr.2

theorem kind_eq_of_front {l' s : List Char} {t' : Token} {c : Char} {k : Token.Kind}
    (h' : Lexeme l' t') (hp : l' <+: c :: s) (hc : startKind c = some k) : t'.kind = k := by
  obtain ⟨c', l₀, rfl, hc'⟩ := h'.head
  obtain rfl : c' = c := (List.cons_prefix_cons.1 hp).1
  exact Option.some.inj (hc'.symm.trans hc)

/-! ### Lexemes of one kind -/

section Kinds

variable {l : List Char} {t : Token}

theorem Lexeme.of_kind_str (h : Lexeme l t) (hk : t.kind = .str) :
    ∃ raw text, StrBody raw text ∧ l = '"' :: raw ++ ['"'] := by
  cases h <;> cases hk
  exact ⟨_, _, ‹_›, rfl⟩

theorem Lexeme.of_kind_int (h : Lexeme l t) (hk : t.kind = .int) :
    ∃ (negative : Bool) (digits : List Char), digits ≠ [] ∧ (∀ d ∈ digits, d.isDigit) ∧
      l = (if negative then ['-'] else []) ++ digits := by
  cases h <;> cases hk
  exact ⟨_, _, ‹_›, ‹_›, rfl⟩

theorem Lexeme.of_kind_ident (h : Lexeme l t) (hk : t.kind = .ident) :
    ∃ c body, (∀ d ∈ body, d.isAlphanum ∨ d = '_') ∧ l = c :: body := by
  cases h <;> cases hk
  exact ⟨_, _, ‹_›, rfl⟩

/-- The path separator, the dot and the parentheses have one spelling each. -/
theorem Lexeme.eq_of_punct {l' : List Char} {t' : Token} (h : Lexeme l t) (h' : Lexeme l' t')
    (hk : t'.kind = t.kind)
    (hp : t.kind = .pathSep ∨ t.kind = .dot ∨ t.kind = .openParen ∨ t.kind = .closeParen) :
    l' = l := by
  cases h <;> cases h' <;> simp_all [Token.kind]

end Kinds

/-! ### Longest lexemes -/

/-- A front of `b ++ r` made of characters with a property is no longer than `b`, when `r`
    does not start with such a character. -/
theorem length_le_of_front {α : Type} {p : α → Prop} {a b r : List α} (hp : a <+: b ++ r)
    (ha : ∀ x ∈ a, p x) (hr : ∀ x ∈ r.head?, ¬ p x) : a.length ≤ b.length := by
  induction b generalizing a with
  | nil =>
    cases a with
    | nil => exact Nat.le_refl 0
    | cons x a =>
      -- the front would hold the first character of `r`
      cases r with
      | nil => exact absurd hp.length_le (by simp)
      | cons y r =>
        obtain ⟨rfl, -⟩ := List.cons_prefix_cons.1 hp
        exact absurd (ha x List.mem_cons_self) (hr x rfl)
  | cons y b ih =>
    cases a with
    | nil => exact Nat.zero_le _
    | cons x a =>
      obtain ⟨-, hp⟩ := List.cons_prefix_cons.1 hp
      exact Nat.succ_le_succ (ih hp fun z hz => ha z (List.mem_cons_of_mem x hz))

theorem longest_punct {l r : List Char} {t : Token} (h : Lexeme l t)
    (hp : t.kind = .pathSep ∨ t.kind = .dot ∨ t.kind = .openParen ∨ t.kind = .closeParen) :
    Longest l r := by
  intro l' t' h' hpre
  obtain ⟨c, l₀, rfl, hc⟩ := h.head
  rw [h.eq_of_punct h' (kind_eq_of_front h' hpre hc) hp]

theorem ne_minus_of_isDigit {c : Char} (hc : c.isDigit = true) : c ≠ '-' := by
  rintro rfl
  cases hc

theorem longest_int {negative : Bool} {digits r : List Char} (hne : digits ≠ [])
    (hd : ∀ d ∈ digits, d.isDigit) (hr : ∀ d ∈ r.head?, ¬ d.isDigit) :
    Longest ((if negative then ['-'] else []) ++ digits) r := by
  intro l' t' h' hpre
  obtain ⟨d, ds, rfl⟩ := List.exists_cons_of_ne_nil hne
  have hd₀ : d.isDigit = true := hd d List.mem_cons_self
  -- the lexeme at the front starts with the sign or the first digit: it is an integer
  have hk : t'.kind = .int := by
    cases negative
    · exact kind_eq_of_front h' hpre (startKind_int (.inr hd₀))
    · exact kind_eq_of_front h' hpre rfl
  obtain ⟨negative', digits', hne', hd', rfl⟩ := h'.of_kind_int hk
  obtain ⟨d', ds', rfl⟩ := List.exists_cons_of_ne_nil hne'
  have hd₀' : d'.isDigit = true := hd' d' List.mem_cons_self
  -- the signs agree, as no digit is a minus sign; then the runs of digits are compared
  cases negative <;> cases negative'
  · have hpre : d' :: ds' <+: (d :: ds) ++ r := hpre
    exact length_le_of_front hpre hd' hr
  · have hpre : '-' :: d' :: ds' <+: d :: (ds ++ r) := hpre
    exact absurd (List.cons_prefix_cons.1 hpre).1.symm (ne_minus_of_isDigit hd₀)
  · have hpre : d' :: ds' <+: '-' :: (d :: ds ++ r) := hpre
    exact absurd (List.cons_prefix_cons.1 hpre).1 (ne_minus_of_isDigit hd₀')
  · have hpre : '-' :: d' :: ds' <+: '-' :: ((d :: ds) ++ r) := hpre
    exact Nat.succ_le_succ (length_le_of_front (List.cons_prefix_cons.1 hpre).2 hd' hr)

theorem longest_ident {c : Char} {body r : List Char} (hc : c.isAlpha ∨ c = '_')
    (hr : ∀ d ∈ r.head?, ¬ (d.isAlphanum ∨ d = '_')) : Longest (c :: body) r := by
  intro l' t' h' hpre
  obtain ⟨c', body', hb', rfl⟩ := h'.of_kind_ident (kind_eq_of_front h' hpre (startKind_ident hc))
  obtain ⟨-, hpre⟩ := List.cons_prefix_cons.1 hpre
  exact Nat.succ_le_succ (length_le_of_front hpre hb' hr)

/-- After the longest identifier comes no character that could continue it. -/
theorem Longest.ident_end {c : Char} {body r : List Char} (hc : c.isAlpha ∨ c = '_')
    (hb : ∀ d ∈ body, d.isAlphanum ∨ d = '_') (hlong : Longest (c :: body) r) :
    ∀ d ∈ r.head?, ¬ (d.isAlphanum ∨ d = '_') := by
  intro d hd hdi
  obtain ⟨r, rfl⟩ : ∃ r', r = d :: r' := by
    cases r with
    | nil => cases hd
    | cons y r => exact ⟨r, by cases hd; rfl⟩
  have hl : Lexeme (c :: (body ++ [d])) _ :=
    .ident hc fun x hx => (List.mem_append.1 hx).elim (hb x) fun hx => by
      rw [List.mem_singleton.1 hx]
      exact hdi
  have := hlong _ _ hl ⟨r, by simp⟩
  simp at this

/-! ### String literals -/

theorem escape_of_decoded {e d : Char}
    (h : (if e = 'n' then some '\n' else if e = 't' then some '\t' else if e = '"' then some '"'
      else if e = '\\' then some '\\' else none) = some d) : Escape e d := by
  split_ifs at h with hn ht hq hb <;> cases h
  · exact hn ▸ .newline
  · exact ht ▸ .tab
  · exact hq ▸ .quote
  · exact hb ▸ .backslash

theorem decoded_of_escape {e d : Char} (h : Escape e d) :
    (if e = 'n' then some '\n' else if e = 't' then some '\t' else if e = '"' then some '"'
      else if e = '\\' then some '\\' else none) = some d := by
  cases h <;> rfl

/-- What `scanString` reads is a string body, closed by a quote. -/
theorem scanString_sound (cs : List Char) :
    ∀ p, scanString cs = .ok p →
      ∃ raw text, cs = raw ++ '"' :: p.2.1 ∧ StrBody raw text ∧ p.1 = String.ofList text := by
  fun_induction scanString cs with
  | case1 | case3 => intro p h; cases h
  | case2 rest =>
    rintro p ⟨⟩
    exact ⟨[], [], rfl, .nil, rfl⟩
  | case4 e rest decoded hd | case5 e rest decoded d hd msg hr ih => intro p h; cases h
  | case6 e rest decoded d hd text r hr hs ih =>
    rintro p ⟨⟩
    obtain ⟨raw, dec, hraw, hb, ht⟩ := ih (text, ⟨r, hr⟩) hs
    dsimp only at hraw ht
    refine ⟨'\\' :: e :: raw, d :: dec, by simp [hraw], .escape (escape_of_decoded hd) hb, ?_⟩
    simp [ht, String.ofList_cons, Char.toString]
  | case7 c rest h₁ h₂ h₃ msg hr ih => intro p h; cases h
  | case8 c rest h₁ h₂ h₃ text r hr hs ih =>
    rintro p ⟨⟩
    obtain ⟨raw, dec, hraw, hb, ht⟩ := ih (text, ⟨r, hr⟩) hs
    dsimp only at hraw ht
    have hc : c ≠ '\\' := fun hc => by
      -- the rest holds at least the closing quote
      cases rest with
      | nil => simp at hraw
      | cons x xs => exact h₃ x xs hc rfl
    refine ⟨c :: raw, c :: dec, by simp [hraw], .plain h₁ hc hb, ?_⟩
    simp [ht, String.ofList_cons, Char.toString]

/-- `scanString` reads a string body up to its closing quote, whatever follows. -/
theorem scanString_complete {raw text : List Char} (hb : StrBody raw text) (r : List Char) :
    ∃ h, scanString (raw ++ '"' :: r) = .ok (String.ofList text, ⟨r, h⟩) := by
  induction hb with
  | nil => exact ⟨_, rfl⟩
  | @plain c raw text hq hbs _ ih =>
    obtain ⟨h, hs⟩ := ih
    rw [List.cons_append, scanString.eq_5 c _ hq (fun h => absurd h hbs) (fun _ _ h => absurd h hbs),
      hs]
    exact ⟨Nat.lt_succ_of_lt h, by simp [String.ofList_cons, Char.toString]⟩
  | @escape e d raw text he _ ih =>
    obtain ⟨h, hs⟩ := ih
    rw [List.cons_append, List.cons_append, scanString.eq_4]
    simp only [decoded_of_escape he, hs]
    exact ⟨Nat.lt_succ_of_lt (Nat.lt_succ_of_lt h), by simp [String.ofList_cons, Char.toString]⟩

/-- A string body ends at its first quote that no backslash escapes. -/
theorem StrBody.eq_of_append {raw raw' text text' r r' : List Char} (hb : StrBody raw text)
    (hb' : StrBody raw' text') (h : raw ++ '"' :: r = raw' ++ '"' :: r') : raw = raw' := by
  induction hb generalizing raw' text' with
  | nil =>
    cases hb' with
    | nil => rfl
    | plain hq _ _ => exact absurd (List.cons.inj h).1.symm hq
    | escape _ _ => cases (List.cons.inj h).1
  | plain hq hbs _ ih =>
    cases hb' with
    | nil => exact absurd (List.cons.inj h).1 hq
    | plain _ _ hb'' =>
      obtain ⟨rfl, h₁⟩ := List.cons.inj h
      rw [ih hb'' h₁]
    | escape _ _ => exact absurd (List.cons.inj h).1 hbs
  | escape _ _ ih =>
    cases hb' with
    | nil => cases (List.cons.inj h).1
    | plain _ hbs' _ => exact absurd (List.cons.inj h).1.symm hbs'
    | escape _ hb'' =>
      obtain ⟨-, h₁⟩ := List.cons.inj h
      obtain ⟨rfl, h₂⟩ := List.cons.inj h₁
      rw [ih hb'' h₂]

theorem longest_str {raw text r : List Char} (hb : StrBody raw text) :
    Longest ('"' :: raw ++ ['"']) r := by
  intro l' t' h' hpre
  obtain ⟨raw', text', hb', rfl⟩ := h'.of_kind_str (kind_eq_of_front h' hpre rfl)
  obtain ⟨s, hs⟩ := hpre
  have h : raw' ++ '"' :: s = raw ++ '"' :: r := by simpa using hs
  rw [StrBody.eq_of_append hb' hb h]

/-! ### Runs of digits and identifier characters -/

/-- `spanWhile` splits off the longest front whose characters satisfy `p`. -/
theorem spanWhile_val (p : Char → Bool) (cs : List Char) :
    (spanWhile p cs).1 = (cs.takeWhile p, cs.dropWhile p) := by
  induction cs with
  | nil => rfl
  | cons c rest ih =>
    unfold spanWhile
    by_cases hp : p c
    · simp only [hp, if_true, List.takeWhile_cons_of_pos hp, List.dropWhile_cons_of_pos hp]
      simp only [ih]
    · simp only [hp, Bool.false_eq_true, if_false, List.takeWhile_cons_of_neg hp,
        List.dropWhile_cons_of_neg hp]

/-- A run of characters satisfying `p`, followed by one that does not, is split there. -/
theorem takeWhile_dropWhile_of_end {p : Char → Bool} {body rest : List Char}
    (hb : ∀ d ∈ body, p d) (hr : ∀ d ∈ rest.head?, ¬ p d) :
    (body ++ rest).takeWhile p = body ∧ (body ++ rest).dropWhile p = rest := by
  rw [List.takeWhile_append_of_pos hb, List.dropWhile_append_of_pos hb]
  cases rest with
  | nil => simp
  | cons d rest =>
    have hd : p d = false := by simpa using hr d rfl
    simp [hd]

/-- A run of characters satisfying `p`, followed by one that does not, is what `spanWhile`
    splits off. -/
theorem spanWhile_of_end {p : Char → Bool} {body rest : List Char}
    (hb : ∀ d ∈ body, p d) (hr : ∀ d ∈ rest.head?, ¬ p d) :
    ∃ h, spanWhile p (body ++ rest) = ⟨(body, rest), h⟩ := by
  obtain ⟨htake, hdrop⟩ := takeWhile_dropWhile_of_end hb hr
  rcases hs : spanWhile p (body ++ rest) with ⟨⟨taken, r⟩, h⟩
  have hv := spanWhile_val p (body ++ rest)
  rw [hs, htake, hdrop] at hv
  cases hv
  exact ⟨h, rfl⟩

/-- After `scan` reads a run with `spanWhile`, the rest starts with no character of the run. -/
theorem head_dropWhile_not (p : Char → Bool) (cs : List Char) :
    ∀ d ∈ (cs.dropWhile p).head?, ¬ p d := by
  induction cs with
  | nil => simp
  | cons c cs ih =>
    by_cases hc : p c
    · rw [List.dropWhile_cons_of_pos hc]
      exact ih
    · rw [List.dropWhile_cons_of_neg hc]
      simpa using hc

theorem digitsValue_eq (ds : List Char) : digitsValue ds = decimalValue ds := by
  induction ds using List.reverseRecOn with
  | nil => rfl
  | append_singleton ds d ih =>
    simp only [digitsValue, decimalValue, List.foldl_append, List.foldl_cons, List.foldl_nil,
      List.reverse_append, List.reverse_cons, List.reverse_nil, List.nil_append,
      List.singleton_append, List.map_cons, Nat.ofDigits_cons] at ih ⊢
    rw [ih]
    omega

/-- An integer is read exactly when it has digits and its value lies in the signed 64-bit
    range. -/
theorem intValue_eq_ok {negative : Bool} {digits : List Char} {v : Int} :
    intValue negative digits = .ok v ↔
      digits ≠ [] ∧ v = signedValue negative digits ∧ int64Min ≤ v ∧ v ≤ int64Max := by
  have hv : (if negative = true then -((decimalValue digits : Nat) : Int)
      else ((decimalValue digits : Nat) : Int)) = signedValue negative digits := rfl
  unfold intValue
  simp only [List.isEmpty_iff, digitsValue_eq, hv]
  split_ifs with he hmax hmin
  · simp [he]
  · simp only [false_iff]
    rintro ⟨-, rfl, -, h⟩
    exact absurd h (by simpa using hmax)
  · simp only [false_iff]
    rintro ⟨-, rfl, h, -⟩
    exact absurd h (by simpa using hmin)
  · simp only [Except.ok.injEq]
    constructor
    · rintro rfl
      exact ⟨he, rfl, by simpa using hmin, by simpa using hmax⟩
    · rintro ⟨-, rfl, -, -⟩
      rfl

theorem isIdentChar_iff {d : Char} : isIdentChar d = true ↔ d.isAlphanum = true ∨ d = '_' := by
  simp [isIdentChar]

/-! ### The scanner reads lexemes -/

theorem except_map_eq_ok {α β : Type} {f : α → β} {x : Except String α} {b : β}
    (h : f <$> x = .ok b) : ∃ a, x = .ok a ∧ b = f a := by
  cases x with
  | error e => cases h
  | ok a =>
    cases h
    exact ⟨a, rfl, rfl⟩

theorem ne_of_startKind {c d : Char} {k : Token.Kind} (hc : startKind c = some k)
    (hd : startKind d ≠ some k) : c ≠ d := by
  rintro rfl
  exact hd hc

theorem not_isBlank_of_startKind {c : Char} {k : Token.Kind} (hk : startKind c = some k) :
    ¬ Text.isBlank c = true := by
  rw [isBlank_of_startKind hk]
  exact Bool.false_ne_true

theorem scan_blank {c : Char} (h : Text.isBlank c = true) (rest : List Char) :
    scan (c :: rest) = scan rest := by
  rw [scan.eq_2, if_pos h]

/-- Where a lexeme starts, `scan` reads it, when it is the longest there and an integer is not
    followed at once by a digit. -/
theorem scan_lexeme {l rest : List Char} {t : Token} (hl : Lexeme l t) (hlong : Longest l rest)
    (hnext : t.kind = .int → ∀ d ∈ rest.head?, ¬ d.isDigit) :
    scan (l ++ rest) = (t :: ·) <$> scan rest := by
  cases hl with
  | @ident c body hc hb =>
    have hk := startKind_ident hc
    have hend := Longest.ident_end hc hb hlong
    have hint : ¬ (decide (c = '-') || c.isDigit) = true := fun h => by
      rw [startKind_int (by simpa using h)] at hk
      cases hk
    rw [List.cons_append, scan.eq_2, if_neg (not_isBlank_of_startKind hk),
      if_neg (ne_of_startKind hk (by decide)), if_neg (ne_of_startKind hk (by decide)),
      if_neg (ne_of_startKind hk (by decide)), if_neg (ne_of_startKind hk (by decide)),
      if_neg (ne_of_startKind hk (by decide)), if_neg hint, if_pos (by simpa [isIdentStart] using hc)]
    -- the identifier runs to the end of the lexeme
    obtain ⟨h, hs⟩ := spanWhile_of_end (p := isIdentChar)
      (fun d hd => isIdentChar_iff.2 (hb d hd)) (fun d hd h => hend d hd (isIdentChar_iff.1 h))
    rw [hs]
  | @int negative digits hne hd hmin hmax =>
    have hv : intValue negative digits = .ok (signedValue negative digits) :=
      intValue_eq_ok.2 ⟨hne, rfl, hmin, hmax⟩
    cases negative with
    | true =>
      -- the digits run to the end of the lexeme
      obtain ⟨h, hs⟩ := spanWhile_of_end (p := Char.isDigit) hd (hnext rfl)
      show scan ('-' :: (digits ++ rest)) = _
      rw [scan.eq_2, if_neg (not_isBlank_of_startKind (show startKind '-' = some .int from rfl)),
        if_neg (by decide), if_neg (by decide), if_neg (by decide), if_neg (by decide),
        if_neg (by decide), if_pos (by decide), hs]
      simp [hv]
    | false =>
      obtain ⟨d, ds, rfl⟩ := List.exists_cons_of_ne_nil hne
      have hk := startKind_int (.inr (hd d (by simp)))
      show scan (d :: (ds ++ rest)) = _
      rw [scan.eq_2, if_neg (not_isBlank_of_startKind hk),
        if_neg (ne_of_startKind hk (by decide)), if_neg (ne_of_startKind hk (by decide)),
        if_neg (ne_of_startKind hk (by decide)), if_neg (ne_of_startKind hk (by decide)),
        if_neg (ne_of_startKind hk (by decide)), if_pos (by simp [hd d (by simp)])]
      obtain ⟨h, hs⟩ := @spanWhile_of_end Char.isDigit ds rest
        (fun e he => hd e (List.mem_cons_of_mem d he)) (hnext rfl)
      rw [hs]
      simp [ne_minus_of_isDigit (hd d (by simp)), hv]
  | @str raw text hb =>
    obtain ⟨h, hs⟩ := scanString_complete hb rest
    have hl : '"' :: raw ++ ['"'] ++ rest = '"' :: (raw ++ '"' :: rest) := by simp
    rw [hl, scan.eq_2, if_neg (not_isBlank_of_startKind (show startKind '"' = some .str from rfl)),
      if_neg (by decide), if_neg (by decide), if_neg (by decide), if_neg (by decide), if_pos rfl]
    simp only [hs]
  | pathSep =>
    rw [List.cons_append, List.cons_append, List.nil_append, scan.eq_2,
      if_neg (not_isBlank_of_startKind (show startKind ':' = some .pathSep from rfl)),
      if_neg (by decide), if_neg (by decide), if_neg (by decide), if_pos rfl,
      if_pos (show (':' :: rest).head? = some ':' from rfl)]
    rfl
  | dot =>
    rw [List.cons_append, List.nil_append, scan.eq_2,
      if_neg (not_isBlank_of_startKind (show startKind '.' = some .dot from rfl)), if_pos rfl]
  | openParen =>
    rw [List.cons_append, List.nil_append, scan.eq_2,
      if_neg (not_isBlank_of_startKind (show startKind '(' = some .openParen from rfl)),
      if_neg (by decide), if_pos rfl]
  | closeParen =>
    rw [List.cons_append, List.nil_append, scan.eq_2,
      if_neg (not_isBlank_of_startKind (show startKind ')' = some .closeParen from rfl)),
      if_neg (by decide), if_neg (by decide), if_pos rfl]

/-! ### The scanner and the lexical grammar agree -/

/-- One lexeme read in front of the tokens of the rest. -/
theorem tokenizes_of_map {l rest : List Char} {t : Token} (hl : Lexeme l t)
    (hlong : Longest l rest) (ih : ∀ ts, scan rest = .ok ts → Tokenizes rest ts) :
    ∀ ts, (t :: ·) <$> scan rest = .ok ts → Tokenizes (l ++ rest) ts := by
  intro ts h
  obtain ⟨ts', hs, rfl⟩ := except_map_eq_ok h
  exact .lexeme hl hlong (ih ts' hs)

/-- The front of `rest` that `scan` reads as the digits of an integer starting with `c`. -/
theorem tokenizes_int {c : Char} {rest : List Char} {value : Int}
    (hc : (decide (c = '-') || c.isDigit) = true)
    (hv : intValue (decide (c = '-'))
      (if c = '-' then rest.takeWhile Char.isDigit else c :: rest.takeWhile Char.isDigit) =
        .ok value)
    (ih : ∀ ts, scan (rest.dropWhile Char.isDigit) = .ok ts →
      Tokenizes (rest.dropWhile Char.isDigit) ts) :
    ∀ ts, (Token.int value :: ·) <$> scan (rest.dropWhile Char.isDigit) = .ok ts →
      Tokenizes (c :: rest) ts := by
  have hr := head_dropWhile_not Char.isDigit rest
  have hd : ∀ d ∈ rest.takeWhile Char.isDigit, d.isDigit := fun d hd => List.mem_takeWhile_imp hd
  have hsplit := (List.takeWhile_append_dropWhile (p := Char.isDigit) (l := rest)).symm
  by_cases hm : c = '-'
  · rw [if_pos hm, decide_eq_true hm] at hv
    obtain ⟨hne, rfl, hmin, hmax⟩ := intValue_eq_ok.1 hv
    have h := tokenizes_of_map (@Lexeme.int true _ hne hd hmin hmax) (longest_int hne hd hr) ih
    subst hm
    simpa using h
  · have hdig : c.isDigit = true := by simpa [hm] using hc
    rw [if_neg hm, decide_eq_false hm] at hv
    obtain ⟨hne, rfl, hmin, hmax⟩ := intValue_eq_ok.1 hv
    have hd' : ∀ d ∈ c :: rest.takeWhile Char.isDigit, d.isDigit := by
      simpa [hdig] using hd
    have h := tokenizes_of_map (@Lexeme.int false _ hne hd' hmin hmax)
      (longest_int hne hd' hr) ih
    simpa [← hsplit] using h

/-- Whatever `scan` returns is the tokenization of its input. -/
theorem scan_sound (cs : List Char) : ∀ ts, scan cs = .ok ts → Tokenizes cs ts := by
  fun_induction scan cs with
  | case1 =>
    rintro ts ⟨⟩
    exact .nil
  | case2 c rest _ hc ih => exact fun ts h => .blank hc (ih ts h)
  | case3 rest _ _ ih => exact tokenizes_of_map .dot (longest_punct .dot (by simp [Token.kind])) ih
  | case4 rest _ _ _ ih =>
    exact tokenizes_of_map .openParen (longest_punct .openParen (by simp [Token.kind])) ih
  | case5 rest _ _ _ _ ih =>
    exact tokenizes_of_map .closeParen (longest_punct .closeParen (by simp [Token.kind])) ih
  | case6 rest hhead _ _ _ _ _ _ ih =>
    obtain ⟨rest, rfl⟩ := List.head?_eq_some_iff.1 hhead
    exact tokenizes_of_map .pathSep (longest_punct .pathSep (by simp [Token.kind])) ih
  | case7 | case8 | case10 | case13 =>
    rintro ts ⟨⟩
  | case9 rest text r hr hs _ _ _ _ _ _ _ ih =>
    obtain ⟨raw, dec, hrest, hb, htext⟩ := scanString_sound rest (text, ⟨r, hr⟩) hs
    dsimp only at hrest htext
    subst hrest htext
    have h := tokenizes_of_map (.str hb) (longest_str hb) ih
    simpa using h
  | case11 c rest _ _ _ _ _ _ _ hc negative taken r _ hs _ value hv ih =>
    have hsv := spanWhile_val Char.isDigit rest
    rw [hs] at hsv
    obtain ⟨rfl, rfl⟩ := Prod.mk.inj hsv
    exact tokenizes_int hc (by simpa [negative] using hv) ih
  | case12 c rest _ _ _ _ _ _ _ _ hc taken r _ hs _ ih =>
    have hsv := spanWhile_val isIdentChar rest
    rw [hs] at hsv
    obtain ⟨rfl, rfl⟩ := Prod.mk.inj hsv
    have hb : ∀ d ∈ rest.takeWhile isIdentChar, d.isAlphanum ∨ d = '_' :=
      fun d hd => isIdentChar_iff.1 (List.mem_takeWhile_imp hd)
    have hr : ∀ d ∈ (rest.dropWhile isIdentChar).head?, ¬ (d.isAlphanum ∨ d = '_') :=
      fun d hd h => head_dropWhile_not isIdentChar rest d hd (isIdentChar_iff.2 h)
    have hc' : c.isAlpha ∨ c = '_' := by simpa [isIdentStart] using hc
    have h := tokenizes_of_map (.ident hc' hb) (longest_ident hc' hr) ih
    simpa using h

/-- Tokens no two of which are integers in a row. -/
def IntsApart (ts : List Token) : Prop :=
  ts.IsChain fun a b => ¬ (a.kind = .int ∧ b.kind = .int)

/-- A text that starts with the first character of a lexeme starts with a token of its kind. -/
theorem Tokenizes.head_kind {c : Char} {rest : List Char} {ts : List Token} {k : Token.Kind}
    (h : Tokenizes (c :: rest) ts) (hc : startKind c = some k) :
    ∃ t ts', ts = t :: ts' ∧ t.kind = k := by
  generalize hcs : c :: rest = cs at h
  cases h with
  | nil => cases hcs
  | blank hb _ =>
    obtain ⟨rfl, rfl⟩ := List.cons.inj hcs
    exact absurd hb (not_isBlank_of_startKind hc)
  | @lexeme l rest' t ts' hl _ _ => exact ⟨t, ts', rfl, kind_eq_of_front hl ⟨rest', hcs.symm⟩ hc⟩

/-- `scan` finds every tokenization in which integers are apart. -/
theorem scan_complete {cs : List Char} {ts : List Token} (h : Tokenizes cs ts)
    (hs : IntsApart ts) : scan cs = .ok ts := by
  induction h with
  | nil => rw [scan.eq_1]
  | blank hc _ ih => rw [scan_blank hc, ih hs]
  | @lexeme l rest t ts hl hlong htail ih =>
    have hts := List.isChain_cons.1 hs
    -- an integer followed at once by a digit would put two integers in a row
    have hnext : t.kind = .int → ∀ d ∈ rest.head?, ¬ d.isDigit := by
      intro hk d hd hdig
      obtain ⟨rest', rfl⟩ := List.head?_eq_some_iff.1 hd
      obtain ⟨t', ts', rfl, hk'⟩ := htail.head_kind (startKind_int (.inr hdig))
      exact hts.1 t' rfl ⟨hk, hk'⟩
    rw [scan_lexeme hl hlong hnext, ih hts.2]
    rfl

end Expr

end ReflectCheck
