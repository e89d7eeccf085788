import ReflectCheck.Toml.Error
import ReflectCheck.Toml.Datetime
import ReflectCheck.Binary64.Shortest

/-!
# Reading TOML scalars

The text of a key or scalar value, as written, is read into its value here: the four
kinds of strings with their escapes, integers (decimal, or hexadecimal, octal and
binary after `0x`, `0o`, `0b`), floats, booleans, and dates and times, which are kept
as written once their text is checked (`Toml.Datetime`).

Errors carry a byte range relative to the start of the text; the document shifts it to
where the text stands. Each text is read from left to right and the first fault found
is the one reported; a string missing its closing quote is reported before anything in
it.

How an unquoted value is read is decided by its first character:

* a sign is followed by a number, `inf` or `nan` (a second sign is redundant);
* a digit from 1 to 9 or `_` starts a number or, when its first run of digits is
  followed by `-` or `:`, a date or time;
* `0` starts `0`, a number with a radix (`0x`, `0o`, `0b`, lowercase and unsigned, and
  `0d`, a redundant prefix), or else is read like any other digit, except that an
  integer may not start with it;
* `.` starts a float that lacks its integer part;
* `t`, `f`, `i` and `n` start `true`, `false`, `inf` and `nan`;
* anything else, and any text with a space that does not start like a date, is a
  string that should have been quoted (or one missing its opening quote, when it ends
  with quotes).

A float is checked part by part, integer part, fraction and exponent, each needing a
digit; then its underscores. Its value is the binary64 number nearest to the decimal
written; a finite decimal beyond the greatest one has no value and overflows only when
it is read. An integer keeps the number its digits write, or none when they write none
(`0x` alone); such an integer cannot be read as a number later either.

Underscores are checked from left to right, and the first that does not stand between
two digits is reported. In a float the digits are decimal ones; in an integer they are
the digits of any base up to sixteen, so `1_a` passes the check and then writes no
decimal number.
-/

namespace ReflectCheck.Toml

/-- A scalar value. -/
inductive Scalar where
  /-- A string. -/
  | str (s : String)
  /-- An integer: the number its digits write, or none when they write none. -/
  | int (value : Option Int)
  /-- A float: the binary64 number nearest to the decimal written, or none when that
      decimal is finite and beyond the greatest finite number (it overflows when read). -/
  | float (value : Option Binary64)
  /-- A boolean. -/
  | bool (b : Bool)
  /-- A date, a time or both, as written. -/
  | datetime (text : String)
  deriving Inhabited

namespace Scalar

/-- The kind of a scalar, as messages name it. -/
def kindName : Scalar → String
  | .str _ => "string"
  | .int _ => "integer"
  | .float _ => "float"
  | .bool _ => "boolean"
  | .datetime _ => "datetime"

end Scalar

/-- An error in the text of a scalar: a message and a byte range relative to the text. -/
abbrev ScalarError := String × Span

/-- The byte offset of position `i` in `cs`. -/
def offsetOf (cs : List Char) (i : Nat) : Nat := (cs.take i).foldl (fun n c => n + c.utf8Size) 0

/-- The number of bytes of characters. -/
def bytesOf (cs : List Char) : Nat := offsetOf cs cs.length

/-- The value of a hexadecimal digit. -/
def hexDigit? (c : Char) : Option Nat :=
  if c.isDigit then some (c.toNat - 48)
  else if 'a' ≤ c && c ≤ 'f' then some (c.toNat - 87)
  else if 'A' ≤ c && c ≤ 'F' then some (c.toNat - 55)
  else none

/-- Whether a character is a digit of some base an integer may be written in (up to
    sixteen), as underscores between digits of integers are checked. -/
def isIntegerDigit (c : Char) : Bool := (hexDigit? c).isSome

/-- Whether a character is a digit of a base. -/
def isDigitOf (base : Nat) (c : Char) : Bool :=
  match hexDigit? c with
  | some d => d < base
  | none => false

/-- The number written by digits in a base, if they are all digits of it and there is
    at least one. -/
def digitsValue? (base : Nat) (cs : List Char) : Option Nat :=
  if cs.isEmpty then none
  else cs.foldlM (fun a c => (hexDigit? c).bind fun d => if d < base then some (base * a + d) else none) 0

/-! ## Strings -/

/-- The message for an unknown escape. -/
def escapeExpected : String :=
  "missing escaped value, expected `b`, `e`, `f`, `n`, `r`, `\\`, `\"`, `x`, `u`, `U`"

/-- The message for a carriage return without a line feed. -/
def lonelyReturn : String := "carriage return must be followed by newline, expected newline"

/-- What a kind of string literal allows and how its faults are named. -/
structure StringRules where
  /-- Whether backslash escapes are read. -/
  escapes : Bool
  /-- Whether line ends may stand in the content. -/
  multiline : Bool
  /-- Whether an ASCII character other than a tab, a control or the quote may stand as
      it is: literal strings refuse their apostrophe, basic ones their double quote and
      backslash (which starts an escape). -/
  plain : Char → Bool
  /-- The message for characters that may not stand in the content. -/
  invalid : String
  /-- Whether such characters are reported as the whole run of them (rather than the
      first alone). -/
  runs : Bool

/-- Whether a character may stand as it is in a string: a tab, a printable ASCII
    character the rules allow, or any non-ASCII character. -/
def StringRules.allows (r : StringRules) (c : Char) : Bool :=
  c = '\t' || c.toNat ≥ 0x80 || (0x20 ≤ c.toNat && c.toNat < 0x7F && r.plain c)

/-- Single-line basic strings. -/
def basicRules : StringRules :=
  ⟨true, false, (fun c => c ≠ '"' && c ≠ '\\'),
    "invalid basic string, expected non-double-quote visible characters, `\\`", true⟩

/-- Multi-line basic strings. -/
def mlBasicRules : StringRules :=
  ⟨true, true, (fun c => c ≠ '\\'), "invalid multi-line basic string, expected `\\`, characters",
    true⟩

/-- Single-line literal strings. -/
def literalRules : StringRules :=
  ⟨false, false, (fun c => c ≠ '\''),
    "invalid literal string, expected non-single-quote visible characters", false⟩

/-- Multi-line literal strings. -/
def mlLiteralRules : StringRules :=
  ⟨false, true, (fun _ => true),
    "invalid multi-line literal string, expected non-single-quote characters", false⟩

/-- The position of the first carriage return in `cs` that no line feed follows. -/
def loneReturn? : List Char → Option Nat
  | [] => none
  | '\r' :: '\n' :: rest => (loneReturn? rest).map (· + 2)
  | '\r' :: _ => some 0
  | _ :: rest => (loneReturn? rest).map (· + 1)

/-- Drop leading spaces, tabs and line ends. -/
def dropBlankLines (cs : List Char) : { r : List Char // r.length ≤ cs.length } :=
  ⟨cs.dropWhile (fun d => d = ' ' || d = '\t' || d = '\n' || d = '\r'),
    (List.dropWhile_suffix _).length_le⟩

/-- The escape after a backslash whose next character `c` stands at byte `pos`, for a
    hexadecimal escape of `n` digits in `more` (the characters after `c`): the
    character and how many characters of `more` it uses. Fewer than `n` digits are
    reported where the digits stop, a value that is no Unicode scalar value where they
    start. -/
def hexEscape (pos n : Nat) (more : List Char) : Except ScalarError (Char × Nat) :=
  let ds := (more.take n).takeWhile fun d => (hexDigit? d).isSome
  if ds.length < n then
    let p := pos + 1 + ds.length
    .error ("too few unicode value digits, expected unicode hexadecimal value", ⟨p, p⟩)
  else
    let v := ds.foldl (fun a d => 16 * a + (hexDigit? d).getD 0) 0
    if v < 0xD800 || (0xDFFF < v && v < 0x110000) then .ok (Char.ofNat v, n)
    else .error ("invalid value, expected unicode hexadecimal value", ⟨pos + 1, pos + 1⟩)

/-- The character a simple escape stands for. -/
def simpleEscape (c : Char) : Option Char :=
  if c = 'b' then some (Char.ofNat 8)
  else if c = 'e' then some (Char.ofNat 27)
  else if c = 'f' then some (Char.ofNat 12)
  else if c = 'n' then some '\n'
  else if c = 'r' then some '\r'
  else if c = 't' then some '\t'
  else if c = '"' then some '"'
  else if c = '\\' then some '\\'
  else none

/-- One step of reading a string's content at its character `c`, `offset` bytes into
    the written text, with `rest` after it: the characters it stands for, how many
    characters of `rest` it uses too, and how many bytes it covers. An escape stands
    for its character, a line end `\r\n` for itself, and a backslash at the end of a line
    of a multi-line basic string for nothing, taking the blanks and line ends after it;
    blanks after such a backslash must reach a line end.
    A carriage return that no line feed follows is reported just after it, also among
    the blanks a backslash takes. A character that may not stand is reported alone, or
    with the run of such characters it starts when the rules say so. -/
def contentStep (r : StringRules) (offset : Nat) (c : Char) (rest : List Char) :
    Except ScalarError (List Char × Nat × Nat) :=
  if r.escapes && c = '\\' then
    let pos := offset + 1
    match rest with
    | [] => .error (escapeExpected, ⟨pos, pos⟩)
    | e :: more =>
      match simpleEscape e with
      | some d => .ok ([d], 1, 2)
      | none =>
        let hex (n : Nat) : Except ScalarError (List Char × Nat × Nat) :=
          (hexEscape pos n more).map fun (d, used) => ([d], 1 + used, 2 + used)
        if e = 'x' then hex 2
        else if e = 'u' then hex 4
        else if e = 'U' then hex 8
        else if r.multiline && (e = ' ' || e = '\t' || e = '\n' || e = '\r') then
          let blanks := (rest.takeWhile fun d => d = ' ' || d = '\t').length
          let next := (rest.drop blanks).head?
          if next = some '\n' || next = some '\r' then
            let used := rest.length - (dropBlankLines rest).1.length
            match loneReturn? (rest.take used) with
            | some j =>
              let p := pos + offsetOf rest j + 1
              .error (lonelyReturn, ⟨p, p⟩)
            | none => .ok ([], used, 1 + offsetOf rest used)
          else
            let p := pos + offsetOf rest blanks
            .error ("invalid multi-line basic string, expected newline", ⟨p, p⟩)
        else .error (escapeExpected, ⟨pos, pos⟩)
  else if r.multiline && c = '\n' then .ok (['\n'], 0, 1)
  else if r.multiline && c = '\r' then
    if rest.head? = some '\n' then .ok (['\r', '\n'], 1, 2)
    else .error (lonelyReturn, ⟨offset + 1, offset + 1⟩)
  else if r.allows c then .ok ([c], 0, c.utf8Size)
  else if r.runs then
    let run := (c :: rest).takeWhile fun d =>
      !(r.allows d || (r.escapes && d = '\\') || (r.multiline && (d = '\n' || d = '\r')))
    .error (r.invalid, ⟨offset, offset + bytesOf run⟩)
  else .error (r.invalid, ⟨offset, offset + c.utf8Size⟩)

/-- Read the content `cs` of a string, which starts `offset` bytes into the written
    text, step by step (`contentStep`); the first fault is reported. -/
def decodeContent (r : StringRules) (offset : Nat) : List Char → Except ScalarError (List Char)
  | [] => .ok []
  | c :: rest =>
    match contentStep r offset c rest with
    | .error e => .error e
    | .ok (out, used, width) =>
      have : (rest.drop used).length < (c :: rest).length :=
        Nat.lt_of_le_of_lt (List.drop_suffix used rest).length_le (Nat.lt_succ_self _)
      match decodeContent r (offset + width) (rest.drop used) with
      | .ok more => .ok (out ++ more)
      | .error e => .error e
termination_by cs => cs.length
decreasing_by all_goals assumption

/-- Drop a line end right at the start of a multi-line string's content. -/
def dropFirstLineEnd : List Char → List Char × Nat
  | '\n' :: rest => (rest, 1)
  | '\r' :: '\n' :: rest => (rest, 2)
  | cs => (cs, 0)

/-- Strip the delimiter `q` (one or three characters) from both ends of a string literal
    `cs`; a missing closing delimiter is reported at the end of the text, wanting
    `closing`. -/
def stripQuotes (what : String) (q : List Char) (closing : String) (cs : List Char) :
    Except ScalarError (List Char) :=
  let wanted := "invalid " ++ what ++ ", expected `" ++ closing ++ "`"
  if cs.take q.length = q then
    let body := cs.drop q.length
    if q.length ≤ body.length && body.drop (body.length - q.length) = q then
      .ok (body.take (body.length - q.length))
    else
      let n := bytesOf cs
      .error (wanted, ⟨n, n⟩)
  else .error (wanted, ⟨0, 0⟩)

/-- Read a basic string literal (with its quotes). -/
def basicString (cs : List Char) : Except ScalarError String := do
  let body ← stripQuotes "basic string" ['"'] "\"" cs
  return String.ofList (← decodeContent basicRules 1 body)

/-- Read a literal string (with its apostrophes). -/
def literalString (cs : List Char) : Except ScalarError String := do
  let body ← stripQuotes "literal string" ['\''] "'" cs
  return String.ofList (← decodeContent literalRules 1 body)

/-- Read a multi-line basic string (with its quotes). -/
def mlBasicString (cs : List Char) : Except ScalarError String := do
  let body ← stripQuotes "multi-line basic string" ['"', '"', '"'] "\"" cs
  let (body, skipped) := dropFirstLineEnd body
  return String.ofList (← decodeContent mlBasicRules (3 + skipped) body)

/-- Read a multi-line literal string (with its apostrophes). -/
def mlLiteralString (cs : List Char) : Except ScalarError String := do
  let body ← stripQuotes "multi-line literal string" ['\'', '\'', '\''] "'" cs
  let (body, skipped) := dropFirstLineEnd body
  return String.ofList (← decodeContent mlLiteralRules (3 + skipped) body)

/-- The error for text that is no value, or a string missing its opening quote. -/
def invalidScalar (cs : List Char) : ScalarError :=
  let endsWith (q : List Char) := q.length ≤ cs.length && cs.drop (cs.length - q.length) = q
  let missing (q : String) : ScalarError := ("missing opening quote, expected `" ++ q ++ "`", ⟨0, 0⟩)
  if endsWith ['\'', '\'', '\''] then missing "'''"
  else if endsWith ['"', '"', '"'] then missing "\"\"\""
  else if endsWith ['\''] then missing "'"
  else if endsWith ['"'] then missing "\""
  else ("string values must be quoted, expected literal string", ⟨0, bytesOf cs⟩)

/-! ## Numbers -/

/-- The byte of the first underscore in `cs` (which start at byte `pos`, after the
    character `prev`) that does not stand between two digits, as `isDig` tells digits. -/
def misplacedUnderscore (isDig : Char → Bool) : Option Char → List Char → Nat → Option Nat
  | _, [], _ => none
  | prev, c :: rest, pos =>
    if c = '_' && !((prev.map isDig).getD false && (rest.head?.map isDig).getD false) then
      some pos
    else misplacedUnderscore isDig (some c) rest (pos + c.utf8Size)

/-- The first underscore of `stream`, which starts `base` bytes into its text, that does
    not stand between two digits (as `isDig` tells digits). -/
def underscoreError (isDig : Char → Bool) (stream : List Char) (base : Nat) :
    Option ScalarError :=
  (misplacedUnderscore isDig none stream base).map fun p =>
    ("`_` may only go between digits, expected nothing", ⟨p, p + 1⟩)

/-- Split off the digits and underscores at the start of characters. -/
def digitsAndUnderscores (cs : List Char) : List Char × List Char :=
  (cs.takeWhile (fun c => c.isDigit || c = '_'), cs.dropWhile (fun c => c.isDigit || c = '_'))

/-- The first fault in the shape of a float `value` that starts `start` bytes into a text
    of `total` bytes: an integer part, a fraction or an exponent without digits, a
    leading zero, or anything after the exponent. -/
def floatShapeError (value : List Char) (start total : Nat) : Option ScalarError :=
  let (m, r1) := digitsAndUnderscores value
  let digitCount (cs : List Char) := cs.countP Char.isDigit
  if digitCount m = 0 then some ("invalid mantissa, expected digits", ⟨start, start⟩)
  else if 1 < digitCount m && m.head? = some '0' then
    some ("unexpected leading zero, expected nothing", ⟨start, start + 1⟩)
  else
    let pos1 := start + bytesOf m
    let (fracFault, r2, pos2) : Option ScalarError × List Char × Nat := match r1 with
      | '.' :: more =>
        let (f, r) := digitsAndUnderscores more
        let p := pos1 + 1
        (if digitCount f = 0 then some ("invalid fraction, expected digits", ⟨p, p⟩) else none,
          r, p + bytesOf f)
      | _ => (none, r1, pos1)
    match fracFault with
    | some e => some e
    | none =>
      let (expFault, r3, pos3) : Option ScalarError × List Char × Nat := match r2 with
        | c :: more =>
          if c = 'e' || c = 'E' then
            let (signLen, digitsPart) : Nat × List Char := match more with
              | '+' :: x => (1, x)
              | '-' :: x => (1, x)
              | x => (0, x)
            let (x, r) := digitsAndUnderscores digitsPart
            let p := pos2 + 1 + signLen
            (if digitCount x = 0 then some ("invalid exponent, expected digits", ⟨p, p⟩) else none,
              r, p + bytesOf x)
          else (none, r2, pos2)
        | [] => (none, [], pos2)
      match expFault with
      | some e => some e
      | none => if r3.isEmpty then none else some ("invalid float, expected nothing", ⟨pos3, total⟩)

/-- The value of a float written well (signed, with underscores): the binary64 number
    nearest to it, or none for a finite decimal beyond the greatest one. -/
def floatValue (raw : List Char) : Except ScalarError Scalar :=
  let t := raw.filter (· ≠ '_')
  let negative := t.head? = some '-'
  let body := match t with
    | '+' :: r | '-' :: r => r
    | r => r
  let intPart := body.takeWhile Char.isDigit
  let r1 := body.drop intPart.length
  let frac := match r1 with
    | '.' :: r => r.takeWhile Char.isDigit
    | _ => []
  let r2 := match r1 with
    | '.' :: r => r.drop frac.length
    | r => r
  let exponent : Int := match r2 with
    | _ :: '-' :: ds => -((digitsValue? 10 ds).getD 0 : Int)
    | _ :: '+' :: ds => (digitsValue? 10 ds).getD 0
    | _ :: ds => (digitsValue? 10 ds).getD 0
    | [] => 0
  let digits := (digitsValue? 10 (intPart ++ frac)).getD 0
  match Binary64.ofDecimal negative digits (exponent - frac.length) with
  | .infinite _ => .ok (.float none)
  | f => .ok (.float (some f))

/-- A float whose shape `value` (starting `start` bytes into `raw`) is checked, then its
    underscores, then its value. -/
def floatNumber (raw value : List Char) (start : Nat) : Except ScalarError Scalar :=
  let total := bytesOf raw
  match floatShapeError value start total with
  | some e => .error e
  | none =>
    match underscoreError Char.isDigit raw 0 with
    | some e => .error e
    | none => floatValue raw

/-- A decimal integer: its underscores are checked, each to stand between two digits of
    some base; its value is what its digits write in base ten (with its sign), or none
    when they write no number. -/
def decimalInteger (raw : List Char) : Except ScalarError Scalar :=
  match underscoreError isIntegerDigit raw 0 with
  | some e => .error e
  | none =>
    let t := raw.filter (· ≠ '_')
    .ok (.int (match t with
      | '-' :: ds => (digitsValue? 10 ds).map fun v => -(v : Int)
      | '+' :: ds => (digitsValue? 10 ds).map fun v => (v : Int)
      | ds => (digitsValue? 10 ds).map fun v => (v : Int)))

/-- A date or time, checked. -/
def datetimeScalar (raw : List Char) : Except ScalarError Scalar :=
  match Datetime.check raw with
  | .ok () => .ok (.datetime (String.ofList raw))
  | .error e => .error (e.message, ⟨0, bytesOf raw⟩)

/-- A number or date whose `value` (after any sign, `start` bytes into `raw`) starts with
    a digit or `_`: digits alone are an integer, digits then `-` or `:` a date or time,
    a text with a point or an exponent a float, digits then `_` an integer, and anything
    else no value. An integer of more than one character may not start with `0`. -/
def datetimeOrNumber (raw value : List Char) (start : Nat) : Except ScalarError Scalar :=
  let rest := value.dropWhile Char.isDigit
  let integer : Except ScalarError Scalar :=
    if value.head? = some '0' && 1 < value.length then
      .error ("unexpected leading zero, expected nothing", ⟨start, start + 1⟩)
    else decimalInteger raw
  match rest with
  | [] => integer
  | c :: _ =>
    if c = '-' || c = ':' then datetimeScalar raw
    else if rest.contains ' ' then .error (invalidScalar raw)
    else if rest.any (fun d => d = '.' || d = 'e' || d = 'E') then floatNumber raw value start
    else if c = '_' then integer
    else .error (invalidScalar raw)

/-- An integer with a radix: `value` starts with `0` and the radix letter, `start` bytes
    into the text. The letter must be lowercase, no sign may come before or after it, and every
    character after it must be a digit of the base or `_`. -/
def radixInteger (value : List Char) (start : Nat) (signed : Bool) (base : Nat)
    (letter : Char) (name : String) : Except ScalarError Scalar :=
  let digits := value.drop 2
  let digitsStart := start + 2
  if signed then .error ("integers with a radix cannot be signed, expected nothing", ⟨0, 1⟩)
  else if (value.drop 1).head? ≠ some letter then
    .error ("radix must be lowercase, expected `0" ++ String.singleton letter ++ "`",
      ⟨start, start + 2⟩)
  else if digits.head? = some '+' || digits.head? = some '-' then
    .error ("unexpected sign, expected nothing", ⟨digitsStart, digitsStart + 1⟩)
  else
    match digits.findIdx? (fun c => !(isDigitOf base c || c = '_')) with
    | some i =>
      let p := digitsStart + offsetOf digits i
      .error ("invalid " ++ name ++ " number", ⟨p, p + 1⟩)
    | none =>
      match underscoreError (isDigitOf base) digits digitsStart with
      | some e => .error e
      | none => .ok (.int ((digitsValue? base (digits.filter (· ≠ '_'))).map fun v => (v : Int)))

/-- A number or date whose `value` (after any sign, `start` bytes into `raw`) starts with
    `0`: `0` alone, an integer with a radix, or else read as any other number or date. -/
def zeroPrefixed (raw value : List Char) (start : Nat) (signed : Bool) :
    Except ScalarError Scalar :=
  match value with
  | ['0'] => .ok (.int (some 0))
  | _ :: r :: _ =>
    if r = 'x' || r = 'X' then radixInteger value start signed 16 'x' "hexadecimal"
    else if r = 'o' || r = 'O' then radixInteger value start signed 8 'o' "octal"
    else if r = 'b' || r = 'B' then radixInteger value start signed 2 'b' "binary"
    else if r = 'd' || r = 'D' then
      if signed then .error ("integers with a radix cannot be signed, expected nothing", ⟨0, 1⟩)
      else .error ("redundant integer number prefix, expected nothing", ⟨start, start + 2⟩)
    else datetimeOrNumber raw value start
  | _ => .error (invalidScalar raw)

/-- Read a word that must be exactly `symbol`, written at bytes `start` to the end of
    `raw`. -/
def symbolScalar (raw value : List Char) (start : Nat) (symbol : String) (kind : String)
    (result : Scalar) : Except ScalarError Scalar :=
  if value = symbol.toList then .ok result
  else if raw.contains ' ' then .error (invalidScalar raw)
  else .error ("invalid " ++ kind ++ ", expected `" ++ symbol ++ "`", ⟨start, bytesOf raw⟩)

/-- Read a float word after a sign, which must be exactly `symbol`: anything else is
    reported from the word to the end. -/
def signedSymbol (raw value : List Char) (start : Nat) (symbol : String) (result : Scalar) :
    Except ScalarError Scalar :=
  if value = symbol.toList then .ok result
  else .error ("invalid float, expected `" ++ symbol ++ "`", ⟨start, bytesOf raw⟩)

/-- Read what follows the signs of a number, `start` bytes into `raw`. -/
def afterSign (raw : List Char) (negative : Bool) : List Char → Nat → Except ScalarError Scalar
  | [], _ => .error (invalidScalar raw)
  | c :: rest, start =>
    if c = '+' || c = '-' then
      .error ("redundant numeric sign, expected nothing", ⟨start, start + 1⟩)
    else if c = '_' || ('1' ≤ c && c ≤ '9') then datetimeOrNumber raw (c :: rest) start
    else if c = '0' then zeroPrefixed raw (c :: rest) start true
    else if c = '.' then floatNumber raw raw 0
    else if c = 'i' || c = 'I' then
      signedSymbol raw (c :: rest) start "inf" (.float (some (.infinite negative)))
    else if c = 'n' || c = 'N' then signedSymbol raw (c :: rest) start "nan" (.float (some .nan))
    else .error (invalidScalar raw)

/-- Whether an unquoted text may be a date and a time parted by a space: it starts with
    digits followed by `-` or `:`. -/
def datetimeShaped (cs : List Char) : Bool :=
  match cs.head?, (cs.dropWhile Char.isDigit).head? with
  | some c, some d => c.isDigit && (d = '-' || d = ':')
  | _, _ => false

/-- Read an unquoted scalar: a number, boolean, date or time. A text with a space is none
    of them, unless it is shaped like a date and a time. -/
def unquotedScalar (cs : List Char) : Except ScalarError Scalar :=
  match cs with
  | [] => .error (invalidScalar cs)
  | c :: rest =>
    if cs.contains ' ' && !datetimeShaped cs then .error (invalidScalar cs)
    else if c = '+' || c = '-' then afterSign cs (c = '-') rest 1
    else if c = '_' || ('1' ≤ c && c ≤ '9') then datetimeOrNumber cs cs 0
    else if c = '0' then zeroPrefixed cs cs 0 false
    else if c = '.' then floatNumber cs cs 0
    else if c = 't' || c = 'T' then symbolScalar cs cs 0 "true" "boolean" (.bool true)
    else if c = 'f' || c = 'F' then symbolScalar cs cs 0 "false" "boolean" (.bool false)
    else if c = 'i' || c = 'I' then symbolScalar cs cs 0 "inf" "float" (.float (some (.infinite false)))
    else if c = 'n' || c = 'N' then symbolScalar cs cs 0 "nan" "float" (.float (some .nan))
    else .error (invalidScalar cs)

/-- Whether a character may stand in an unquoted key: an ASCII letter or digit, `-` or
    `_`. -/
def isKeyChar (c : Char) : Bool := c.isAlphanum || c = '-' || c = '_'

/-- Read an unquoted key: letters, digits, `-` and `_`, at least one. The first character
    that does not belong is reported with the run of such characters it starts. -/
def unquotedKey (cs : List Char) : Except ScalarError String :=
  let expected := ", expected letters, numbers, `-`, `_`"
  if cs.isEmpty then .error ("unquoted keys cannot be empty" ++ expected, ⟨0, 0⟩)
  else
    match cs.findIdx? (fun c => !isKeyChar c) with
    | some i =>
      let pos := offsetOf cs i
      let run := (cs.drop i).takeWhile fun c => !isKeyChar c
      .error ("invalid unquoted key" ++ expected, ⟨pos, pos + bytesOf run⟩)
    | none => .ok (String.ofList cs)

end ReflectCheck.Toml
