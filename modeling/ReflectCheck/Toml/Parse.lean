import ReflectCheck.Toml.Token
import ReflectCheck.Toml.Error

/-!
# The syntax of TOML documents

Tokens are read into the items of a document: table headers (`[a.b]`, `[[a.b]]`) and
key-value pairs, whose values are scalars (as written), arrays and inline tables. Keys
and scalars are kept as written; reading their text is the next step (`Toml.Document`).

Comments and line ends are checked as they are passed: a comment may hold no control
character but a tab, and a carriage return must be followed by a line feed. Inline
tables may span lines and hold comments.

Reading stops at the first syntax error, which is reported with the byte range the
reader stood at, for example "key with no value, expected `=`" just before the token
that should have been `=` ("missing value for key" when the line started with a dot), or "unclosed array, expected `]`" just after the last
element. A key that is missing where one is needed (`= 1`, `a. = 1`, `[]`) is not a
syntax error: an empty key stands in its place, and reading it reports that unquoted
keys cannot be empty. A key that the text ends after is missing its value.

At most 80 arrays and inline tables may stand one inside another: opening one more is
an error at its bracket, found in reading order like any other syntax error.

Every reading function takes a fuel argument. One unit is spent on every token read,
so a fuel of one more than the number of tokens is never exhausted.
-/

namespace ReflectCheck.Toml

namespace Token

/-- The byte range of a token. -/
def span (t : Token) : Span := ⟨t.start, t.stop⟩

end Token

/-- A key as written: the token it comes from, or an empty unquoted key where one is
    missing. -/
structure Key where
  /-- How the key is written: an atom (bare) or one of the string kinds. -/
  kind : TokenKind
  /-- The characters as written, quotes included. -/
  raw : List Char
  /-- Where it is written. -/
  span : Span
  deriving Inhabited

namespace Key

/-- The key written by a token. -/
def ofToken (t : Token) : Key := ⟨t.kind, t.text, t.span⟩

/-- The empty key standing where a key is missing, at byte `pos`. -/
def missing (pos : Nat) : Key := ⟨.atom, [], ⟨pos, pos⟩⟩

end Key

/-- A value as written. -/
inductive Syntax where
  /-- A scalar: a string literal, or the text of a number, boolean or date. -/
  | scalar (kind : TokenKind) (raw : List Char) (span : Span)
  /-- An array, from `[` to `]`. -/
  | array (items : List Syntax) (span : Span)
  /-- An inline table, from the opening to the closing brace. -/
  | table (entries : List (List Key × Syntax)) (span : Span)
  deriving Inhabited

namespace Syntax

/-- Where the value is written. -/
def span : Syntax → Span
  | .scalar _ _ s => s
  | .array _ s => s
  | .table _ s => s

end Syntax

/-- An item of a document. -/
inductive Item where
  /-- A table header: `[keys]`, or `[[keys]]` when `array` is set. -/
  | header (array : Bool) (keys : List Key) (span : Span)
  /-- A key-value pair. -/
  | entry (keys : List Key) (value : Syntax)
  deriving Inhabited

/-- A syntax error at a byte range. -/
def syntaxError (message : String) (span : Span) : Error := ⟨message, some span⟩

/-- The error for running out of fuel, which a fuel of one more than the number of tokens
    never does. -/
def outOfFuel : Error := ⟨"document nested too deeply", none⟩

/-- The fault of a comment or line end, if it has one: a comment may hold tabs and
    printable characters only (any non-ASCII character is printable), and a carriage
    return must be followed by a line feed. -/
def triviaError (t : Token) : Option Error :=
  match t.kind with
  | .comment =>
    let bad (c : Char) : Bool := c ≠ '\t' && (c.toNat < 0x20 || c.toNat = 0x7F)
    match t.text.findIdx? bad with
    | some i =>
      let pos := t.start + byteLength (t.text.take i)
      some (syntaxError "invalid comment character, expected printable characters" ⟨pos, pos⟩)
    | none => none
  | .newline =>
    if t.text = ['\r'] then
      some (syntaxError "carriage return must be followed by newline, expected newline" t.span.after)
    else none
  | _ => none

/-- Go on with `k` after a comment or line end `t`, unless it is faulty. -/
def afterTrivia {α : Type} (t : Token) (k : Except Error α) : Except Error α :=
  match triviaError t with
  | some e => .error e
  | none => k

/-- Drop leading whitespace tokens. -/
def skipSpace : List Token → List Token
  | t :: rest => if t.kind = .whitespace then skipSpace rest else t :: rest
  | [] => []

/-- Drop tokens up to and including the next line end, checking the comment and line end
    dropped. -/
def skipLine : List Token → Except Error (List Token)
  | t :: rest =>
    if t.kind = .newline then afterTrivia t (.ok rest)
    else if t.kind = .comment then afterTrivia t (skipLine rest)
    else skipLine rest
  | [] => .ok []

/-- Whether a token ends a key path (so that a key missing before it is empty). -/
def TokenKind.endsKey : TokenKind → Bool
  | .closeBracket | .comment | .equals | .comma | .openBracket | .openBrace | .closeBrace
  | .newline => true
  | _ => false

/-- The keys of a path from a point where a key is needed: a key, then further keys each
    after a dot. Where a key is missing an empty key stands before the token found
    instead. Returns the keys, whether none was missing, and the tokens after the path
    (and after the whitespace that follows it). -/
def keyPath (eof : Nat) : Nat → List Token → List Key × Bool × List Token
  | 0, ts => ([], false, ts)
  | fuel + 1, ts =>
    match skipSpace ts with
    | [] => ([Key.missing eof], false, [])
    | t :: rest =>
      if t.kind.endsKey then ([Key.missing t.start], false, t :: rest)
      else if t.kind = .dot then
        let (ks, ok, r) := keyPath eof fuel rest
        (Key.missing t.start :: ks, ok, r)
      else
        match skipSpace rest with
        | d :: more =>
          if d.kind = .dot then
            let (ks, ok, r) := keyPath eof fuel more
            (Key.ofToken t :: ks, ok, r)
          else ([Key.ofToken t], true, d :: more)
        | [] => ([Key.ofToken t], true, [])

/-- The keys after a first key: each follows a dot, as in `keyPath`. -/
def dottedKeys (eof fuel : Nat) (ts : List Token) : List Key × Bool × List Token :=
  match skipSpace ts with
  | d :: more => if d.kind = .dot then keyPath eof fuel more else ([], true, d :: more)
  | [] => ([], true, [])

/-- Split off what continues a scalar: atoms and dots, and whitespace that an atom
    follows. -/
def scalarTail : List Token → List Token × List Token
  | t :: rest =>
    if t.kind = .dot || t.kind = .atom then
      let (more, r) := scalarTail rest
      (t :: more, r)
    else if t.kind = .whitespace then
      match rest with
      | a :: after =>
        if a.kind = .atom then
          let (more, r) := scalarTail after
          (t :: a :: more, r)
        else ([], t :: rest)
      | [] => ([], [t])
    else ([], t :: rest)
  | [] => ([], [])

/-- The characters of tokens, in order. -/
def textOf (ts : List Token) : List Char := ts.flatMap (·.text)

/-- A scalar starting with token `first`: the atoms and dots after it belong to it, and
    so do blanks between it and a further atom on its line (as in `1.5`, `07:32:00.999`
    and `1979-05-27 07:32:00`, but also `true false`, which is then no value). -/
def scalarFrom (first : Token) (ts : List Token) : Syntax × List Token :=
  let (more, rest) := scalarTail ts
  let toks := first :: more
  let stop := (toks.getLast?.map (·.stop)).getD first.stop
  (.scalar .atom (textOf toks) ⟨first.start, stop⟩, rest)

/-- The most arrays and inline tables that may stand one inside another. -/
def maxNesting : Nat := 80

/-- The error for opening an array or inline table at token `t` inside `maxNesting`
    others. -/
def tooDeep (t : Token) : Error :=
  syntaxError "cannot recurse further; max recursion depth met" t.span

/-- What an inline table needs next. -/
inductive TableNeed where
  | key | equals | value | comma
  deriving DecidableEq

/-- What is expected, as shown in messages, when an inline table needs something. -/
def TableNeed.expected : TableNeed → String
  | .key => "key"
  | .equals => "`=`"
  | .value => "value"
  | .comma => "`,`"

mutual

/-- A value inside `depth` arrays and inline tables, at tokens that start with no
    whitespace. -/
def value (eof depth : Nat) : Nat → List Token → Except Error (Syntax × List Token)
  | 0, _ => .error outOfFuel
  | _ + 1, [] => .ok (.scalar .atom [] ⟨eof, eof⟩, [])
  | fuel + 1, t :: rest =>
    match t.kind with
    | .comment | .comma | .newline => .ok (.scalar .atom [] t.span.before, t :: rest)
    | .equals => .error (syntaxError "extra `=`, expected nothing" t.span)
    | .openBrace =>
      if maxNesting ≤ depth then .error (tooDeep t)
      else inlineTable eof (depth + 1) fuel t.span .key [] [] t.span (skipSpace rest)
    | .closeBrace =>
      .error (syntaxError "missing inline table opening, expected `\x7b`" t.span.before)
    | .openBracket =>
      if maxNesting ≤ depth then .error (tooDeep t)
      else array eof (depth + 1) fuel t.span true [] t.span rest
    | .closeBracket => .error (syntaxError "missing array opening, expected `[`" t.span.before)
    | .whitespace => value eof depth fuel (skipSpace rest)
    | .literalString | .basicString | .mlLiteralString | .mlBasicString =>
      .ok (.scalar t.kind t.text t.span, rest)
    | .dot | .atom => .ok (scalarFrom t rest)

/-- The rest of an array opened at `openSpan`, itself the `depth`-th of the arrays and
    inline tables it stands in: `needsValue` tells whether an element may come next
    (rather than a comma), `items` are the elements so far (last first), and `last` is
    the last thing read that is not whitespace, a comment or a line end. -/
def array (eof depth : Nat) : Nat → Span → Bool → List Syntax → Span → List Token →
    Except Error (Syntax × List Token)
  | 0, _, _, _, _, _ => .error outOfFuel
  | _ + 1, _, _, _, last, [] => .error (syntaxError "unclosed array, expected `]`" last.after)
  | fuel + 1, openSpan, needsValue, items, last, t :: rest =>
    let missingComma : Except Error (Syntax × List Token) :=
      .error (syntaxError "missing comma between array elements, expected `,`" t.span.before)
    let element (r : Except Error (Syntax × List Token)) : Except Error (Syntax × List Token) :=
      if needsValue then
        match r with
        | .ok (v, after) => array eof depth fuel openSpan false (v :: items) v.span after
        | .error e => .error e
      else missingComma
    match t.kind with
    | .whitespace => array eof depth fuel openSpan needsValue items last rest
    | .comment | .newline =>
      afterTrivia t (array eof depth fuel openSpan needsValue items last rest)
    | .comma =>
      if needsValue then .error (syntaxError "extra comma in array, expected value" t.span)
      else array eof depth fuel openSpan true items t.span rest
    | .equals => .error (syntaxError "unexpected `=` in array, expected value, `]`" t.span)
    | .openBrace =>
      element (if maxNesting ≤ depth then .error (tooDeep t)
        else inlineTable eof (depth + 1) fuel t.span .key [] [] t.span (skipSpace rest))
    | .closeBrace =>
      if needsValue then
        .error (syntaxError "missing inline table opening, expected `\x7b`" t.span.before)
      else missingComma
    | .openBracket =>
      element (if maxNesting ≤ depth then .error (tooDeep t)
        else array eof (depth + 1) fuel t.span true [] t.span rest)
    | .closeBracket => .ok (.array items.reverse (openSpan.join t.span), rest)
    | .literalString | .basicString | .mlLiteralString | .mlBasicString =>
      element (.ok (.scalar t.kind t.text t.span, rest))
    | .dot | .atom => element (.ok (scalarFrom t rest))

/-- The rest of an inline table opened at `openSpan`, itself the `depth`-th of the arrays
    and inline tables it stands in: `need` is what comes next, `entries` the complete
    entries (last first), `keys` the keys of the entry being read, and `last` the last
    thing read that is not whitespace. A table closed where a value is needed, after a
    key or after `=`, gives that key an empty literal string as written value, which
    does not read. -/
def inlineTable (eof depth : Nat) : Nat → Span → TableNeed → List (List Key × Syntax) →
    List Key → Span → List Token → Except Error (Syntax × List Token)
  | 0, _, _, _, _, _, _ => .error outOfFuel
  | _ + 1, _, _, _, _, last, [] =>
    .error (syntaxError "unclosed inline table, expected `\x7d`" last.after)
  | fuel + 1, openSpan, need, entries, keys, last, t :: rest =>
    let unexpected (what : String) : Except Error (Syntax × List Token) :=
      .error (syntaxError (what ++ ", expected " ++ need.expected) t.span.before)
    let withValue (r : Except Error (Syntax × List Token)) : Except Error (Syntax × List Token) :=
      match r with
      | .ok (v, after) =>
        inlineTable eof depth fuel openSpan .comma ((keys, v) :: entries) [] v.span after
      | .error e => .error e
    match t.kind with
    | .whitespace => inlineTable eof depth fuel openSpan need entries keys last rest
    | .comment | .newline =>
      afterTrivia t (inlineTable eof depth fuel openSpan need entries keys last rest)
    | .comma =>
      if need = .comma then inlineTable eof depth fuel openSpan .key entries [] t.span rest
      else unexpected "extra comma in inline table"
    | .equals =>
      match need with
      | .key => inlineTable eof depth fuel openSpan .value entries [Key.missing t.start] t.span
          (skipSpace rest)
      | .equals => inlineTable eof depth fuel openSpan .value entries keys t.span (skipSpace rest)
      | _ => unexpected "extra assignment between key-value pairs"
    | .openBrace =>
      match need with
      | .value =>
        withValue (if maxNesting ≤ depth then .error (tooDeep t)
          else inlineTable eof (depth + 1) fuel t.span .key [] [] t.span (skipSpace rest))
      | .equals => unexpected "missing assignment between key-value pairs"
      | _ => unexpected "missing key for inline table element"
    | .openBracket =>
      match need with
      | .value =>
        withValue (if maxNesting ≤ depth then .error (tooDeep t)
          else array eof (depth + 1) fuel t.span true [] t.span rest)
      | .equals => unexpected "missing assignment between key-value pairs"
      | _ => unexpected "missing key for inline table element"
    | .closeBrace =>
      match need with
      | .equals | .value =>
        let v := Syntax.scalar .literalString [] t.span.before
        .ok (.table ((keys, v) :: entries).reverse (openSpan.join t.span), rest)
      | _ => .ok (.table entries.reverse (openSpan.join t.span), rest)
    | .closeBracket =>
      match need with
      | .value => .error (syntaxError "missing array opening, expected `[`" t.span.before)
      | _ => .error (syntaxError ("invalid inline table element, expected " ++ need.expected) t.span)
    | .literalString | .basicString | .mlLiteralString | .mlBasicString | .dot | .atom =>
      match need with
      | .key =>
        let (ks, _, after) :=
          if t.kind = .dot then keyPath eof fuel (t :: rest)
          else
            let (more, ok, r) := dottedKeys eof fuel rest
            (Key.ofToken t :: more, ok, r)
        -- the last token of the keys, not an empty key standing where the text ends
        let used := (t :: rest).take ((t :: rest).length - after.length)
        let lastKey := ((used.filter (·.kind ≠ .whitespace)).getLast?.map (·.span)).getD t.span
        inlineTable eof depth fuel openSpan .equals entries ks lastKey after
      | .value =>
        if t.kind = .dot || t.kind = .atom then withValue (.ok (scalarFrom t rest))
        else withValue (.ok (.scalar t.kind t.text t.span, rest))
      | .equals => unexpected "missing assignment between key-value pairs"
      | .comma => unexpected "missing comma between key-value pairs"

end

/-- The end of a line after an item: whitespace, then a comment, a line end or the end of
    the text. -/
def lineEnd : List Token → Except Error (List Token)
  | [] => .ok []
  | t :: rest =>
    match t.kind with
    | .whitespace => lineEnd rest
    | .comment | .newline => afterTrivia t (.ok rest)
    | _ => .error (syntaxError "unexpected key or value, expected newline, `#`" t.span.before)

/-- A key-value pair whose keys have been read up to the tokens `ts`. Without `=` after
    the keys the value is missing; the message tells whether the line started with a
    dot (`leadingDot`) or with a key. -/
def keyValue (eof fuel : Nat) (leadingDot : Bool) (keys : List Key) (ts : List Token) :
    Except Error (Item × List Token) :=
  let noValue (span : Span) : Except Error (Item × List Token) :=
    .error (syntaxError
      (if leadingDot then "missing value for key, expected `=`" else "key with no value, expected `=`")
      span)
  match skipSpace ts with
  | e :: rest =>
    if e.kind = .equals then
      match value eof 0 fuel (skipSpace rest) with
      | .ok (v, after) =>
        match lineEnd after with
        | .ok r => .ok (.entry keys v, r)
        | .error err => .error err
      | .error err => .error err
    else noValue e.span.before
  | [] => noValue ⟨eof, eof⟩

/-- A table header after its first `[`. A header whose keys are not all present and that is
    not closed is no syntax error: the rest of its line is skipped. -/
def header (eof fuel : Nat) (openTok : Token) (ts : List Token) :
    Except Error (Item × List Token) :=
  let (isArray, ts) : Bool × List Token := match ts with
    | t :: rest => if t.kind = .openBracket then (true, rest) else (false, t :: rest)
    | [] => (false, [])
  let (keys, valid, after) := keyPath eof fuel ts
  let lastKey := (keys.getLast?.map (·.span)).getD openTok.span
  let unclosed : Except Error (Item × List Token) :=
    if valid then
      .error (syntaxError
        (if isArray then "unclosed array table, expected `]]`" else "unclosed table, expected `]`")
        lastKey.after)
    else (skipLine after).map fun r => (.header isArray keys (openTok.span.join lastKey), r)
  match skipSpace after with
  | c :: rest =>
    if c.kind = .closeBracket then
      if isArray then
        match rest with
        | c2 :: more =>
          if c2.kind = .closeBracket then
            match lineEnd more with
            | .ok r => .ok (.header true keys (openTok.span.join c2.span), r)
            | .error e => .error e
          else .error (syntaxError "unclosed array table, expected `]`" c.span.after)
        | [] => .error (syntaxError "unclosed array table, expected `]`" c.span.after)
      else
        match lineEnd rest with
        | .ok r => .ok (.header false keys (openTok.span.join c.span), r)
        | .error e => .error e
    else unclosed
  | [] => unclosed

/-- The items of a document from the tokens `ts` on (items so far last first). -/
def items (eof : Nat) : Nat → List Item → List Token → Except Error (List Item)
  | 0, _, _ => .error outOfFuel
  | _ + 1, acc, [] => .ok acc.reverse
  | fuel + 1, acc, t :: rest =>
    let next (r : Except Error (Item × List Token)) : Except Error (List Item) :=
      match r with
      | .ok (item, after) => items eof fuel (item :: acc) after
      | .error e => .error e
    match t.kind with
    | .whitespace => items eof fuel acc rest
    | .newline | .comment => afterTrivia t (items eof fuel acc rest)
    | .openBracket => next (header eof fuel t rest)
    | .closeBracket => .error (syntaxError "missing table open, expected `[`" t.span.before)
    | .comma | .openBrace | .closeBrace =>
      .error (syntaxError "invalid key-value pair, expected key" t.span.before)
    | .equals => next (keyValue eof fuel false [Key.missing t.start] (t :: rest))
    | .dot =>
      let (ks, _, after) := keyPath eof fuel (t :: rest)
      next (keyValue eof fuel true ks after)
    | _ =>
      let (more, _, after) := dottedKeys eof fuel rest
      next (keyValue eof fuel false (Key.ofToken t :: more) after)

/-- The items of a TOML text, or its first syntax error. -/
def parseItems (s : String) : Except Error (List Item) :=
  let ts := lex s
  items s.utf8ByteSize (2 * ts.length + 2) [] ts

end ReflectCheck.Toml
