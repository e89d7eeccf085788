import ReflectCheck.Text.Blank
import ReflectCheck.Text.Quoted

/-!
# Tokens of reflective expressions

An expression is read as a sequence of tokens, longest match first, with blank
characters allowed between them: identifiers (`[A-Za-z_][A-Za-z0-9_]*`), integers (an
optional minus sign and ASCII digits, within the signed 64-bit range), double-quoted
strings whose only escapes are `\n`, `\t`, `\"` and `\\`, the path separator `::`, the
dot and the two parentheses. Any other character is an error.

Each lexeme reader returns the rest of the input with a proof that it is no longer than
the input, so `scan` recurses on strictly shorter input.
-/

namespace ReflectCheck.Expr

/-- A token of an expression. -/
inductive Token where
  /-- An identifier. -/
  | ident (name : String)
  /-- An integer literal. -/
  | int (value : Int)
  /-- A string literal, decoded. -/
  | str (text : String)
  /-- The path separator `::`. -/
  | pathSep
  /-- The dot before a method name. -/
  | dot
  /-- An opening parenthesis. -/
  | openParen
  /-- A closing parenthesis. -/
  | closeParen
  deriving DecidableEq, Inhabited

namespace Token

/-- How a token is named in error messages. -/
def describe : Token → String
  | .ident name => "`" ++ name ++ "`"
  | .int value => "`" ++ toString value ++ "`"
  | .str text => Text.quote text
  | .pathSep => "`::`"
  | .dot => "`.`"
  | .openParen => "`(`"
  | .closeParen => "`)`"

end Token

/-- Whether `c` may start an identifier. -/
def isIdentStart (c : Char) : Bool := c.isAlpha || c = '_'

/-- Whether `c` may continue an identifier. -/
def isIdentChar (c : Char) : Bool := c.isAlphanum || c = '_'

/-- The least signed 64-bit integer. -/
def int64Min : Int := -Int.ofNat (Nat.pow 2 63)

/-- The greatest signed 64-bit integer. -/
def int64Max : Int := Int.ofNat (Nat.pow 2 63) - 1

/-- Read the body of a string literal after its opening quote: the decoded text up to
    the closing quote, and the input after it. -/
def scanString : (cs : List Char) → Except String (String × { r : List Char // r.length < cs.length })
  | [] => .error "unterminated string literal"
  | '"' :: rest => .ok ("", ⟨rest, Nat.lt_succ_self _⟩)
  | '\\' :: [] => .error "unterminated string literal"
  | '\\' :: e :: rest =>
    let decoded : Option Char :=
      if e = 'n' then some '\n' else if e = 't' then some '\t'
      else if e = '"' then some '"' else if e = '\\' then some '\\' else none
    match decoded with
    | none => .error ("unknown escape `\\" ++ e.toString ++ "`")
    | some d =>
      match scanString rest with
      | .error msg => .error msg
      | .ok (text, ⟨r, hr⟩) => .ok (d.toString ++ text, ⟨r, by simp only [List.length_cons]; omega⟩)
  | c :: rest =>
    match scanString rest with
    | .error msg => .error msg
    | .ok (text, ⟨r, hr⟩) => .ok (c.toString ++ text, ⟨r, by simp only [List.length_cons]; omega⟩)

/-- The value of a run of decimal digits. -/
def digitsValue (ds : List Char) : Nat :=
  ds.foldl (fun n d => 10 * n + (d.toNat - '0'.toNat)) 0

/-- Split off the longest prefix of characters satisfying `p`. -/
def spanWhile (p : Char → Bool) :
    (cs : List Char) → { s : List Char × List Char // s.2.length + s.1.length = cs.length }
  | [] => ⟨([], []), rfl⟩
  | c :: rest =>
    if p c then
      let ⟨(taken, r), h⟩ := spanWhile p rest
      ⟨(c :: taken, r), by simp only [List.length_cons] at *; omega⟩
    else ⟨([], c :: rest), rfl⟩

/-- The text of an integer literal (sign and digits) and the value it denotes, if that
    value lies in the signed 64-bit range; otherwise why it does not. -/
def intValue (negative : Bool) (digits : List Char) : Except String Int :=
  let text := String.ofList ((if negative then ['-'] else []) ++ digits)
  let fail (reason : String) : Except String Int :=
    .error ("invalid integer `" ++ text ++ "`: " ++ reason)
  if digits.isEmpty then fail "invalid digit found in string"
  else
    let magnitude : Int := digitsValue digits
    let value := if negative then -magnitude else magnitude
    if value > int64Max then fail "number too large to fit in target type"
    else if value < int64Min then fail "number too small to fit in target type"
    else .ok value

/-- Split input into tokens, longest match first, skipping blanks between them. -/
def scan : (cs : List Char) → Except String (List Token)
  | [] => .ok []
  | c :: rest =>
    have : rest.length < (c :: rest).length := Nat.lt_succ_self _
    if Text.isBlank c then scan rest
    else if c = '.' then (Token.dot :: ·) <$> scan rest
    else if c = '(' then (Token.openParen :: ·) <$> scan rest
    else if c = ')' then (Token.closeParen :: ·) <$> scan rest
    else if c = ':' then
      if rest.head? = some ':' then
        have : rest.tail.length < (c :: rest).length :=
          Nat.lt_of_le_of_lt (List.tail_suffix rest).length_le this
        (Token.pathSep :: ·) <$> scan rest.tail
      else .error "expected `::`"
    else if c = '"' then
      match scanString rest with
      | .error msg => .error msg
      | .ok (text, ⟨r, hr⟩) =>
        have : r.length < (c :: rest).length := Nat.lt_succ_of_lt hr
        (Token.str text :: ·) <$> scan r
    else if c = '-' || c.isDigit then
      let negative := c = '-'
      let ⟨(taken, r), h⟩ := spanWhile Char.isDigit rest
      have : r.length < (c :: rest).length :=
        Nat.lt_succ_of_le (Nat.le_trans (Nat.le_add_right _ _) (Nat.le_of_eq h))
      match intValue negative (if negative then taken else c :: taken) with
      | .error msg => .error msg
      | .ok value => (Token.int value :: ·) <$> scan r
    else if isIdentStart c then
      let ⟨(body, r), h⟩ := spanWhile isIdentChar rest
      have : r.length < (c :: rest).length :=
        Nat.lt_succ_of_le (Nat.le_trans (Nat.le_add_right _ _) (Nat.le_of_eq h))
      (Token.ident (String.ofList (c :: body)) :: ·) <$> scan r
    else .error ("unexpected character `" ++ c.toString ++ "`")
termination_by cs => cs.length
decreasing_by all_goals assumption

end ReflectCheck.Expr
