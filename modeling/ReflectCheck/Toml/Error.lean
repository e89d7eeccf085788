/-!
# Errors in TOML documents

An error in a TOML document has a message and, usually, the byte range of the text it
is about. Shown with the document, it names the line and column where that range starts
and quotes the line with carets under the range:

```
TOML parse error at line 1, column 9
  |
1 | name = [
  |         ^
unclosed array, expected `]`
```

Lines and columns count from one. The column counts the characters of the line up to
the range, except when the range starts at a character of more than one byte: then it
counts bytes. A range at the very end of the text is placed one column after its last
character. There is always at least one caret; there are as many as the range has
bytes, but no more than the quoted line has bytes after the column.
-/

namespace ReflectCheck.Toml

/-- A byte range `[start, stop)` of a text. -/
structure Span where
  /-- The first byte. -/
  start : Nat
  /-- The byte after the last. -/
  stop : Nat
  deriving DecidableEq, Inhabited

namespace Span

/-- The empty range at the start of this one. -/
def before (s : Span) : Span := ⟨s.start, s.start⟩

/-- The empty range at the end of this one. -/
def after (s : Span) : Span := ⟨s.stop, s.stop⟩

/-- The range from the start of `a` to the end of `b`. -/
def join (a b : Span) : Span := ⟨a.start, b.stop⟩

/-- The range shifted by `offset` bytes. -/
def shift (s : Span) (offset : Nat) : Span := ⟨s.start + offset, s.stop + offset⟩

end Span

/-- An error in a TOML document: a message and the range it is about, if any. -/
structure Error where
  /-- What is wrong. -/
  message : String
  /-- Where, as a byte range of the document. -/
  span : Option Span
  deriving Inhabited

namespace Error

/-- The line and column, both from zero, of byte `index` of `bytes`. -/
def position (bytes : ByteArray) (index : Nat) : Nat × Nat :=
  if bytes.size = 0 then (0, index)
  else
    let safe := min index (bytes.size - 1)
    let past := index - safe
    let before := (bytes.extract 0 safe).toList
    let lineStart := match (before.zipIdx.filter (·.1 = 10)).getLast? with
      | some (_, i) => i + 1
      | none => 0
    let line := ((bytes.extract 0 lineStart).toList.filter (· = 10)).length
    let column := match String.fromUTF8? (bytes.extract lineStart (safe + 1)) with
      | some s => s.length - 1
      | none => safe - lineStart
    (line, column + past)

/-- The error shown with the document it is about. -/
def render (e : Error) (input : String) : String :=
  match e.span with
  | none => e.message ++ "\n"
  | some span =>
    let (line, column) := position input.toUTF8 span.start
    let lineNo := toString (line + 1)
    let gutter := String.ofList (List.replicate (lineNo.length + 1) ' ')
    let content := ((input.splitOn "\n")[line]?).getD ""
    let width := min (span.stop - span.start) (content.utf8ByteSize - column)
    let carets := "^" ++ String.ofList (List.replicate (width - 1) '^')
    "TOML parse error at line " ++ lineNo ++ ", column " ++ toString (column + 1) ++ "\n" ++
      gutter ++ "|\n" ++
      lineNo ++ " | " ++ content ++ "\n" ++
      gutter ++ "|" ++ String.ofList (List.replicate (column + 1) ' ') ++ carets ++ "\n" ++
      e.message ++ "\n"

end Error

end ReflectCheck.Toml
