import Mathlib.Tactic.SplitIfs
import ReflectCheck.Value

/-!
# Texts that read back

A report shows a primitive value as its text (`Value.display`): `nil`, `true`, `false`, the
decimal integer, or the string between double quotes with its special characters escaped.
Different primitives have different texts (`Value.display_injective`): within a kind because
each text reads back, across kinds because the first characters differ.

The quoted form of a string reads back one character at a time: every escape starts with a
backslash, the character after it says which escape it is, and the code point of a `\u`
escape runs to a closing brace, which no hexadecimal digit is (`Text.readChar_escapeChar`).
So the escapes form a code in which no escape is the start of another, and the quoted form
determines the string (`Text.quote_injective`).

Decimal numbers read back through `Nat.ofDigitChars`; an integer's text starts with a sign
or a digit, so no other kind of primitive starts like it.
-/

namespace ReflectCheck.Text

/-- The value of a lowercase hexadecimal digit. -/
def hexValue (c : Char) : Nat := if c.toNat < 58 then c.toNat - 48 else c.toNat - 87

/-- The number that hexadecimal digits write, the most significant first. -/
def readHex (cs : List Char) : Nat := cs.foldl (fun n c => 16 * n + hexValue c) 0

/-- The characters before the first closing brace, and those after it. -/
def splitAtBrace : List Char → Option (List Char × List Char)
  | [] => none
  | c :: r => if c = '\x7d' then some ([], r) else (splitAtBrace r).map fun p => (c :: p.1, p.2)

/-- The character whose escape starts `cs`, read back, and the characters after the escape. -/
def readChar : List Char → Option (Char × List Char)
  | '\\' :: '0' :: r => some ('\x00', r)
  | '\\' :: 't' :: r => some ('\t', r)
  | '\\' :: 'r' :: r => some ('\r', r)
  | '\\' :: 'n' :: r => some ('\n', r)
  | '\\' :: '\\' :: r => some ('\\', r)
  | '\\' :: '"' :: r => some ('"', r)
  | '\\' :: 'u' :: '\x7b' :: r => (splitAtBrace r).map fun p => (Char.ofNat (readHex p.1), p.2)
  | c :: r => some (c, r)
  | [] => none

/-! ### Hexadecimal digits -/

theorem hexValue_digitChar : ∀ d, d < 16 → hexValue d.digitChar = d := by decide

theorem readHex_append_digit (cs : List Char) (c : Char) :
    readHex (cs ++ [c]) = 16 * readHex cs + hexValue c := by
  simp [readHex, List.foldl_append]

/-- The hexadecimal digits of a number read back as the number. -/
theorem readHex_hexDigits (n : Nat) : readHex (hexDigits n) = n := by
  induction n using Nat.base_induction 16 (by decide) with
  | single m hm =>
    rw [hexDigits, Nat.toDigits_of_lt_base hm]
    simpa [readHex] using hexValue_digitChar m hm
  | digit m k hk hm ih =>
    rw [hexDigits, ← Nat.toDigits_append_toDigits (by decide) hm hk, Nat.toDigits_of_lt_base hk,
      readHex_append_digit, ← hexDigits, ih, hexValue_digitChar k hk]

/-- Every digit of a number is the digit character of a value below the base. -/
theorem mem_toDigits {b n : Nat} (hb : 1 < b) {c : Char} (hc : c ∈ Nat.toDigits b n) :
    ∃ d, d < b ∧ c = d.digitChar := by
  induction n using Nat.base_induction b hb with
  | single m hm =>
    rw [Nat.toDigits_of_lt_base hm, List.mem_singleton] at hc
    exact ⟨m, hm, hc⟩
  | digit m k hk hm ih =>
    rw [← Nat.toDigits_append_toDigits hb hm hk, Nat.toDigits_of_lt_base hk, List.mem_append,
      List.mem_singleton] at hc
    exact hc.elim ih fun h => ⟨k, hk, h⟩

theorem brace_not_mem_hexDigits (n : Nat) : '\x7d' ∉ hexDigits n := by
  intro hc
  obtain ⟨d, hd, he⟩ := mem_toDigits (by decide) hc
  have : ∀ d, d < 16 → d.digitChar ≠ '\x7d' := by decide
  exact this d hd he.symm

theorem splitAtBrace_append {ds : List Char} (hds : '\x7d' ∉ ds) (r : List Char) :
    splitAtBrace (ds ++ '\x7d' :: r) = some (ds, r) := by
  induction ds with
  | nil => simp [splitAtBrace]
  | cons c ds ih =>
    rw [List.mem_cons, not_or] at hds
    simp [splitAtBrace, Ne.symm hds.1, ih hds.2]

/-! ### Escapes -/

/-- Every escape reads back as its character, whatever follows it. -/
theorem readChar_escapeChar (c : Char) (r : List Char) :
    readChar (escapeChar c ++ r) = some (c, r) := by
  unfold escapeChar
  split_ifs with h0 ht hr hn hb hq hu
  · subst h0; rfl
  · subst ht; rfl
  · subst hr; rfl
  · subst hn; rfl
  · subst hb; rfl
  · subst hq; rfl
  · simp [readChar, splitAtBrace_append (brace_not_mem_hexDigits _), readHex_hexDigits]
  · simp [readChar, hb]

theorem escapeChar_ne_nil (c : Char) : escapeChar c ≠ [] := fun h => by
  simpa [h, readChar] using readChar_escapeChar c []

/-- The escapes of two characters, each followed by more text, agree only for the same
    character followed by the same text. -/
theorem escapeChar_append_inj {c d : Char} {r t : List Char}
    (h : escapeChar c ++ r = escapeChar d ++ t) : c = d ∧ r = t := by
  have hread := congrArg readChar h
  rw [readChar_escapeChar, readChar_escapeChar, Option.some.injEq, Prod.mk.injEq] at hread
  exact hread

theorem escape_cons_ne_nil (c : Char) (cs : List Char) : escape (c :: cs) ≠ [] := by
  rw [escape_cons]
  exact List.append_ne_nil_of_left_ne_nil (escapeChar_ne_nil c) _

/-- Escaping is a code: the escaped characters determine the characters. -/
theorem escape_injective : Function.Injective escape := by
  intro cs ds h
  -- read the escapes off one at a time, from the front
  induction cs generalizing ds with
  | nil =>
    cases ds with
    | nil => rfl
    | cons d ds => exact absurd h.symm (escape_cons_ne_nil d ds)
  | cons c cs ih =>
    cases ds with
    | nil => exact absurd h (escape_cons_ne_nil c cs)
    | cons d ds =>
      rw [escape_cons, escape_cons] at h
      obtain ⟨rfl, hr⟩ := escapeChar_append_inj h
      rw [ih hr]

theorem toList_quote (s : String) : (quote s).toList = '"' :: (escape s.toList ++ ['"']) := by
  simp [quote]

/-- Two strings with the same quoted form are the same. -/
theorem quote_injective : Function.Injective quote := by
  intro s t h
  have hl := congrArg String.toList h
  rw [toList_quote, toList_quote, List.cons.injEq] at hl
  exact String.toList_inj.1 (escape_injective (List.append_cancel_right hl.2))

/-! ### Numbers -/

/-- A natural number's decimal text reads back as the number. -/
theorem repr_injective : Function.Injective Nat.repr := by
  intro n m h
  have hd := congrArg (fun s : String => Nat.ofDigitChars 10 s.toList 0) h
  simpa [Nat.toList_repr] using hd

theorem isDigit_of_mem_repr {n : Nat} {c : Char} (hc : c ∈ n.repr.toList) : c.isDigit := by
  rw [Nat.toList_repr] at hc
  exact Nat.isDigit_of_mem_toDigits (by decide) (by decide) hc

/-- A natural number's text has no minus sign. -/
theorem repr_ne_minus (n m : Nat) : n.repr ≠ "-" ++ m.repr := fun h => by
  have hmem : '-' ∈ n.repr.toList := by simp [h]
  exact absurd (isDigit_of_mem_repr hmem) (by decide)

/-- Two integers with the same text are the same. -/
theorem toString_int_injective : Function.Injective (toString : Int → String) := by
  intro i j h
  rw [Int.toString_eq_repr, Int.toString_eq_repr, Int.repr_eq_if, Int.repr_eq_if] at h
  split_ifs at h with hi hj hj
  · have := repr_injective h
    omega
  · exact absurd h (repr_ne_minus _ _)
  · exact absurd h.symm (repr_ne_minus _ _)
  · have hl := congrArg String.toList h
    simp only [String.toList_append, List.append_cancel_left_eq] at hl
    have := repr_injective (String.toList_inj.1 hl)
    omega

/-- An integer is written with a minus sign or a digit first. -/
theorem head?_toString_int (i : Int) :
    ∃ c, (toString i).toList.head? = some c ∧ (c = '-' ∨ c.isDigit = true) := by
  rw [Int.toString_eq_repr, Int.repr_eq_if]
  split_ifs
  · obtain ⟨c, r, hcr⟩ := List.exists_cons_of_ne_nil (Nat.toDigits_ne_nil (n := i.toNat) (b := 10))
    refine ⟨c, by simp [Nat.toList_repr, hcr], .inr (isDigit_of_mem_repr (n := i.toNat) ?_)⟩
    simp [Nat.toList_repr, hcr]
  · exact ⟨'-', by simp, .inl rfl⟩

/-- No other character starts an integer's text. -/
theorem head?_toString_int_ne (i : Int) {c : Char} (hc : c ≠ '-') (hd : c.isDigit = false) :
    (toString i).toList.head? ≠ some c := by
  obtain ⟨c', hc', hcd⟩ := head?_toString_int i
  rw [hc']
  rintro ⟨⟩
  rcases hcd with rfl | hd'
  · exact hc rfl
  · rw [hd] at hd'
    cases hd'

end ReflectCheck.Text

namespace ReflectCheck

/-- A handle's text is `#` and the decimal digits of its slot. -/
theorem Handle.toList_text (h : Handle) : h.text.toList = '#' :: Nat.toDigits 10 h.slot := by
  simp [Handle.text]

end ReflectCheck

namespace ReflectCheck.Value

open Text

/-- A primitive's text starts with neither `#` nor a capital letter. -/
theorem head?_display (v : Value) (hv : v.isPrimitive = true) :
    ∃ c, v.display.toList.head? = some c ∧ c ≠ '#' ∧ c.isUpper = false := by
  cases v with
  | nil => exact ⟨'n', rfl, by decide, rfl⟩
  | bool b => cases b <;> exact ⟨_, rfl, by decide, rfl⟩
  | int i =>
    obtain ⟨c, hc, hcd⟩ := head?_toString_int i
    refine ⟨c, hc, ?_, ?_⟩
    · rintro rfl
      rcases hcd with h | h <;> cases h
    · rcases hcd with rfl | hd
      · rfl
      · -- `Char.isUpper` unfolded by `show`: its equation lemma belongs to a library module
        show decide (c.val ≥ 'A'.val ∧ c.val ≤ 'Z'.val) = false
        simp [Char.isDigit, UInt32.le_iff_toNat_le] at hd ⊢
        omega
  | str s => exact ⟨'"', by simp [display, toList_quote], by decide, rfl⟩
  | object h => cases hv

/-- Primitives with the same text are the same. -/
theorem display_injective {v w : Value} (hv : v.isPrimitive = true) (hw : w.isPrimitive = true)
    (h : v.display = w.display) : v = w := by
  have hhead := congrArg (fun s : String => s.toList.head?) h
  rcases v with _ | ⟨_ | _⟩ | i | s | _ <;> rcases w with _ | ⟨_ | _⟩ | j | t | _ <;>
    simp only [display, isPrimitive, Bool.false_eq_true, if_true, if_false] at h hhead hv hw
  -- within a kind, the text determines the value
  case int.int => rw [toString_int_injective h]
  case str.str => rw [quote_injective h]
  -- across kinds, the first characters differ: `n`, `t`, `f`, a quote, a sign or a digit
  all_goals try simp [toList_quote] at hhead
  all_goals first
    | rfl
    | exact absurd hhead (head?_toString_int_ne _ (by decide) rfl)
    | exact absurd hhead.symm (head?_toString_int_ne _ (by decide) rfl)

end ReflectCheck.Value
