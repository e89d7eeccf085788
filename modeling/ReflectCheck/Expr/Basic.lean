import ReflectCheck.Expr.Token
import ReflectCheck.Fault

/-!
# Reflective expressions

An expression is a receiver followed by method calls:

```
expr     := receiver call*
receiver := int | string | nil | true | false | C (:: C)*
call     := . method ( "(" ")" )?
method   := class | superclass | singleton_class | new | name
```

where a constant `C` is an identifier that starts with an ASCII capital letter. `parse`
reads the tokens of the text (`scan`) and then this grammar; a text that fails either
step is a `Fault.unparsable` quoting the text as given, and the expression keeps the
text with its blanks trimmed, which is how it is shown.
-/

namespace ReflectCheck.Expr

/-- A reflective method an expression can call. -/
inductive Method where
  /-- The class of the receiver. -/
  | cls
  /-- The superclass of the receiver. -/
  | superclass
  /-- The singleton class of the receiver. -/
  | singletonClass
  /-- A new instance of the receiver. -/
  | new
  /-- The name of the receiver. -/
  | name
  deriving DecidableEq, Inhabited

namespace Method

/-- The method as it is written in expressions. -/
def text : Method → String
  | .cls => "class"
  | .superclass => "superclass"
  | .singletonClass => "singleton_class"
  | .new => "new"
  | .name => "name"

/-- The method written `s`, if any. -/
def ofText? (s : String) : Option Method :=
  if s = "class" then some .cls
  else if s = "superclass" then some .superclass
  else if s = "singleton_class" then some .singletonClass
  else if s = "new" then some .new
  else if s = "name" then some .name
  else none

end Method

/-- Where the calls of an expression start. -/
inductive Receiver where
  /-- A literal primitive value. -/
  | literal (v : Value)
  /-- A constant path, one segment per `::`-separated name. -/
  | constant (path : List String)
  deriving DecidableEq, Inhabited

end Expr

/-- A parsed reflective expression. -/
structure Expr where
  /-- The text of the expression, trimmed of blanks. -/
  text : String
  /-- The receiver the calls start from. -/
  receiver : Expr.Receiver
  /-- The method calls, in order. -/
  calls : List Expr.Method
  deriving DecidableEq, Inhabited

namespace Expr

/-- Whether `name` starts with an ASCII capital letter, as constant names do. -/
def isConstantName (name : String) : Bool :=
  match name.toList with
  | c :: _ => c.isUpper
  | [] => false

/-- Whether `name` is a single constant segment an expression can refer to: an ASCII
    capital letter followed by ASCII letters, digits and underscores. -/
def isConstantIdentifier (name : String) : Bool :=
  isConstantName name && name.toList.all isIdentChar

/-- The pieces of a text between its occurrences of `::`, taken from the left. -/
def splitPath : List Char → List (List Char)
  | ':' :: ':' :: rest => [] :: splitPath rest
  | c :: rest =>
    match splitPath rest with
    | piece :: pieces => (c :: piece) :: pieces
    | [] => [[c]]
  | [] => [[]]

/-- Whether `path` is a `::`-separated path of constant segments. -/
def isConstantPath (path : String) : Bool :=
  (splitPath path.toList).all fun segment => isConstantIdentifier (String.ofList segment)

/-- Read further `:: C` segments of a constant path. -/
def parsePath : List Token → Except String (List String × List Token)
  | .pathSep :: .ident segment :: rest =>
    if isConstantName segment then
      match parsePath rest with
      | .ok (segments, after) => .ok (segment :: segments, after)
      | .error msg => .error msg
    else .error "expected constant name after `::`"
  | .pathSep :: _ => .error "expected constant name after `::`"
  | rest => .ok ([], rest)

/-- Read the receiver of an expression. -/
def parseReceiver : List Token → Except String (Receiver × List Token)
  | [] => .error "empty expression"
  | .int value :: rest => .ok (.literal (.int value), rest)
  | .str text :: rest => .ok (.literal (.str text), rest)
  | .ident name :: rest =>
    if name = "nil" then .ok (.literal .nil, rest)
    else if name = "true" then .ok (.literal (.bool true), rest)
    else if name = "false" then .ok (.literal (.bool false), rest)
    else if isConstantName name then
      match parsePath rest with
      | .ok (segments, after) => .ok (.constant (name :: segments), after)
      | .error msg => .error msg
    else .error ("`" ++ name ++ "` is not a constant or literal")
  | token :: _ => .error ("unexpected " ++ token.describe)

/-- Skip an empty argument list `()`; `none` when an argument list is opened and not
    closed at once. -/
def skipEmptyArgs : (ts : List Token) → Option { r : List Token // r.length ≤ ts.length }
  | .openParen :: .closeParen :: after => some ⟨after, by simp only [List.length_cons]; omega⟩
  | .openParen :: _ => none
  | ts => some ⟨ts, Nat.le_refl _⟩

/-- Read the method calls that follow the receiver. -/
def parseCalls : (ts : List Token) → Except String (List Method)
  | [] => .ok []
  | .dot :: .ident name :: rest =>
    match Method.ofText? name with
    | none => .error ("unsupported method `" ++ name ++ "`")
    | some m =>
      match skipEmptyArgs rest with
      | none => .error ("`" ++ name ++ "` takes no arguments")
      | some ⟨after, h⟩ =>
        have : after.length < (Token.dot :: Token.ident name :: rest).length :=
          Nat.lt_succ_of_lt (Nat.lt_succ_of_le h)
        (m :: ·) <$> parseCalls after
  | .dot :: token :: _ => .error ("expected method name, found " ++ token.describe)
  | [.dot] => .error "expected method name after `.`"
  | token :: _ => .error ("expected `.`, found " ++ token.describe)
termination_by ts => ts.length
decreasing_by all_goals assumption

/-- Read the receiver and calls of a token sequence. -/
def parseTokens (tokens : List Token) : Except String (Receiver × List Method) := do
  let (receiver, rest) ← parseReceiver tokens
  let calls ← parseCalls rest
  pure (receiver, calls)

/-- Parse an expression; a failure quotes the text as given. -/
def parse (text : String) : Except Fault Expr :=
  match scan text.toList >>= parseTokens with
  | .ok (receiver, calls) => .ok ⟨Text.trimBlank text, receiver, calls⟩
  | .error reason => .error (.unparsable text reason)

/-- An expression is shown as its text. -/
instance : ToString Expr := ⟨Expr.text⟩

end Expr

end ReflectCheck
