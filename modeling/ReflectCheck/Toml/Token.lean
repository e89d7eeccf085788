/-!
# Tokens of TOML documents

A TOML text is first cut into tokens, each with the byte range it covers: the single
characters `.`, `=`, `,`, `[`, `]`, `{` and `}`; runs of spaces and tabs; comments up to
the end of their line; line ends (`\n` or `\r\n`); the four kinds of string literals;
and atoms, the runs of other characters (bare keys, numbers, booleans, dates).

A byte order mark at the start of the text is no token. Cutting never fails. A string literal that is not closed ends before the line feed
that follows it (a multi-line one at the end of the text), and what is wrong with it is
reported when its value is read.
-/

namespace ReflectCheck.Toml

/-- The kinds of tokens. -/
inductive TokenKind where
  | dot | equals | comma | openBracket | closeBracket | openBrace | closeBrace
  | whitespace | comment | newline
  | literalString | basicString | mlLiteralString | mlBasicString
  | atom
  deriving DecidableEq, Inhabited

namespace TokenKind

/-- Whether the token is a string literal of some kind. -/
def isString : TokenKind → Bool
  | .literalString | .basicString | .mlLiteralString | .mlBasicString => true
  | _ => false

end TokenKind

/-- A token: its kind, its text, and the byte range `[start, stop)` it covers. -/
structure Token where
  /-- The kind of token. -/
  kind : TokenKind
  /-- The characters of the token. -/
  text : List Char
  /-- The byte offset of its first character. -/
  start : Nat
  /-- The byte offset after its last character. -/
  stop : Nat
  deriving Inhabited

/-- The number of bytes of characters in UTF-8. -/
def byteLength (cs : List Char) : Nat := cs.foldl (fun n c => n + c.utf8Size) 0

/-- Whether a character ends an atom. -/
def endsAtom (c : Char) : Bool :=
  c = '.' || c = '=' || c = ',' || c = '[' || c = ']' || c = '\x7b' || c = '\x7d' ||
    c = ' ' || c = '\t' || c = '#' || c = '\r' || c = '\n'

/-- Split off the longest prefix whose characters satisfy `p`. -/
def spanChars (p : Char → Bool) :
    (cs : List Char) → { s : List Char × List Char // s.2.length + s.1.length = cs.length }
  | [] => ⟨([], []), rfl⟩
  | c :: rest =>
    if p c then
      let ⟨(taken, r), h⟩ := spanChars p rest
      ⟨(c :: taken, r), by simp only [List.length_cons] at h ⊢; omega⟩
    else ⟨([], c :: rest), rfl⟩

/-- The body of a single-line basic string after its opening quote: up to and including
    the closing quote, or up to the line feed or the end of the text. A backslash takes
    a following backslash or quote with it. -/
def basicBody : (cs : List Char) → { s : List Char × List Char // s.2.length + s.1.length = cs.length }
  | [] => ⟨([], []), rfl⟩
  | '"' :: rest => ⟨(['"'], rest), rfl⟩
  | '\n' :: rest => ⟨([], '\n' :: rest), rfl⟩
  | '\\' :: '\\' :: rest =>
    let ⟨(taken, r), h⟩ := basicBody rest
    ⟨('\\' :: '\\' :: taken, r), by simp only [List.length_cons] at h ⊢; omega⟩
  | '\\' :: '"' :: rest =>
    let ⟨(taken, r), h⟩ := basicBody rest
    ⟨('\\' :: '"' :: taken, r), by simp only [List.length_cons] at h ⊢; omega⟩
  | c :: rest =>
    let ⟨(taken, r), h⟩ := basicBody rest
    ⟨(c :: taken, r), by simp only [List.length_cons] at h ⊢; omega⟩

/-- The body of a single-line literal string after its opening apostrophe: up to and
    including the closing apostrophe, or up to the line feed or the end of the text. -/
def literalBody : (cs : List Char) → { s : List Char × List Char // s.2.length + s.1.length = cs.length }
  | [] => ⟨([], []), rfl⟩
  | '\'' :: rest => ⟨(['\''], rest), rfl⟩
  | '\n' :: rest => ⟨([], '\n' :: rest), rfl⟩
  | c :: rest =>
    let ⟨(taken, r), h⟩ := literalBody rest
    ⟨(c :: taken, r), by simp only [List.length_cons] at h ⊢; omega⟩

/-- The body of a multi-line string after its three opening quotes `q`: up to and
    including the closing three quotes (and up to two more quotes just before them), or
    to the end of the text. With `escapes`, a backslash takes the next character with it. -/
def multiBody (q : Char) (escapes : Bool) :
    (cs : List Char) → { s : List Char × List Char // s.2.length + s.1.length = cs.length }
  | [] => ⟨([], []), rfl⟩
  | c :: rest =>
    if escapes && c = '\\' then
      match hr : rest with
      | d :: more =>
        let ⟨(taken, r), h⟩ := multiBody q escapes more
        ⟨(c :: d :: taken, r), by subst_vars; simp only [List.length_cons] at h ⊢; omega⟩
      | [] => ⟨([c], []), by simp_all⟩
    else if c = q then
      match hr : rest with
      | a :: b :: more =>
        if a = q && b = q then
          -- up to two further quotes belong to the content
          match hm : more with
          | x :: y :: after =>
            if x = q && y = q then ⟨([c, a, b, x, y], after), by subst_vars; simp only [List.length_cons, List.length_nil]⟩
            else if x = q then ⟨([c, a, b, x], y :: after), by subst_vars; simp only [List.length_cons, List.length_nil]⟩
            else ⟨([c, a, b], x :: y :: after), by subst_vars; simp only [List.length_cons, List.length_nil]⟩
          | [x] => if x = q then ⟨([c, a, b, x], []), by simp⟩ else ⟨([c, a, b], [x]), by simp⟩
          | [] => ⟨([c, a, b], []), by simp⟩
        else
          let ⟨(taken, r), h⟩ := multiBody q escapes rest
          ⟨(c :: taken, r), by subst_vars; simp only [List.length_cons] at h ⊢; omega⟩
      | _ =>
        let ⟨(taken, r), h⟩ := multiBody q escapes rest
        ⟨(c :: taken, r), by subst_vars; simp only [List.length_cons] at h ⊢; omega⟩
    else
      let ⟨(taken, r), h⟩ := multiBody q escapes rest
      ⟨(c :: taken, r), by simp only [List.length_cons] at h ⊢; omega⟩

/-- The next token at the start of `c :: rest`: its kind, its characters and the rest. -/
def nextToken (c : Char) (rest : List Char) :
    { t : TokenKind × List Char × List Char // t.2.2.length < (c :: rest).length } :=
  let single (k : TokenKind) : { t : TokenKind × List Char × List Char //
      t.2.2.length < (c :: rest).length } := ⟨(k, [c], rest), Nat.lt_succ_self _⟩
  if c = '.' then single .dot
  else if c = '=' then single .equals
  else if c = ',' then single .comma
  else if c = '[' then single .openBracket
  else if c = ']' then single .closeBracket
  else if c = '\x7b' then single .openBrace
  else if c = '\x7d' then single .closeBrace
  else if c = '\n' then single .newline
  else if c = ' ' || c = '\t' then
    let ⟨(taken, r), h⟩ := spanChars (fun d => d = ' ' || d = '\t') rest
    ⟨(.whitespace, c :: taken, r), by simp only [List.length_cons] at h ⊢; omega⟩
  else if c = '#' then
    let ⟨(taken, r), h⟩ := spanChars (fun d => d ≠ '\n' && d ≠ '\r') rest
    ⟨(.comment, c :: taken, r), by simp only [List.length_cons] at h ⊢; omega⟩
  else if c = '\r' then
    if rest.head? = some '\n' then ⟨(.newline, ['\r', '\n'], rest.drop 1), by simp only [List.length_cons, List.length_drop]; omega⟩
    else single .newline
  else if c = '"' then
    match hr : rest with
    | '"' :: '"' :: after =>
      let ⟨(taken, r), h⟩ := multiBody '"' true after
      ⟨(.mlBasicString, '"' :: '"' :: '"' :: taken, r), by subst_vars; simp only [List.length_cons] at h ⊢; omega⟩
    | _ =>
      let ⟨(taken, r), h⟩ := basicBody rest
      ⟨(.basicString, c :: taken, r), by subst_vars; simp only [List.length_cons] at h ⊢; omega⟩
  else if c = '\'' then
    match hr : rest with
    | '\'' :: '\'' :: after =>
      let ⟨(taken, r), h⟩ := multiBody '\'' false after
      ⟨(.mlLiteralString, '\'' :: '\'' :: '\'' :: taken, r), by subst_vars; simp only [List.length_cons] at h ⊢; omega⟩
    | _ =>
      let ⟨(taken, r), h⟩ := literalBody rest
      ⟨(.literalString, c :: taken, r), by subst_vars; simp only [List.length_cons] at h ⊢; omega⟩
  else
    let ⟨(taken, r), h⟩ := spanChars (fun d => !endsAtom d) rest
    ⟨(.atom, c :: taken, r), by simp only [List.length_cons] at h ⊢; omega⟩

/-- Cut characters starting at byte offset `offset` into tokens. -/
def lexFrom (offset : Nat) : (cs : List Char) → List Token
  | [] => []
  | c :: rest =>
    let ⟨(kind, text, after), h⟩ := nextToken c rest
    let stop := offset + byteLength text
    have : after.length < (c :: rest).length := h
    ⟨kind, text, offset, stop⟩ :: lexFrom stop after
termination_by cs => cs.length
decreasing_by all_goals (simp only [List.length_cons] at h ⊢; omega)

/-- The tokens of a text; a byte order mark at its start is passed over. -/
def lex (s : String) : List Token :=
  match s.toList with
  | '\ufeff' :: rest => lexFrom 3 rest
  | cs => lexFrom 0 cs

end ReflectCheck.Toml
