import ReflectCheck.Json.Basic

/-!
# Reading JSON documents

`Json.read` reads back the documents of `Json.Basic`: `null`, `true`, `false`,
integers, strings with the escapes of JSON, arrays and objects, with blanks (space, tab,
line feed, carriage return) allowed between tokens. Fractions and exponents are not
read, since no report holds them. `Json.compact` writes a document on one line, without
blanks; reading it back gives the document again.

Nested documents are read with a fuel argument, the length of the text: every nested
value starts further on in the text, so nesting never runs deeper than that.
-/

namespace ReflectCheck

namespace Json

mutual

/-- The text of a document on one line, without blanks. -/
def compact : Json → String
  | .null => "null"
  | .bool b => if b then "true" else "false"
  | .num n => toString n
  | .str s => quote s
  | .arr items => "[" ++ compactItems items ++ "]"
  | .obj members => "\x7b" ++ compactMembers members ++ "\x7d"

/-- Array elements on one line. -/
def compactItems : List Json → String
  | [] => ""
  | [v] => compact v
  | v :: rest => compact v ++ "," ++ compactItems rest

/-- Object members on one line. -/
def compactMembers : List (String × Json) → String
  | [] => ""
  | [(k, v)] => quote k ++ ":" ++ compact v
  | (k, v) :: rest => quote k ++ ":" ++ compact v ++ "," ++ compactMembers rest

end

/-- Drop blanks. -/
def skipBlanks : List Char → List Char
  | c :: rest => if c = ' ' || c = '\t' || c = '\n' || c = '\r' then skipBlanks rest else c :: rest
  | [] => []

/-- The value of a hexadecimal digit. -/
def hexValue (c : Char) : Option Nat :=
  if c.isDigit then some (c.toNat - '0'.toNat)
  else if 'a' ≤ c && c ≤ 'f' then some (c.toNat - 'a'.toNat + 10)
  else if 'A' ≤ c && c ≤ 'F' then some (c.toNat - 'A'.toNat + 10)
  else none

/-- The code unit of four hexadecimal digits. -/
def hex4 (a b c d : Char) : Option Nat := do
  pure ((← hexValue a) * 4096 + (← hexValue b) * 256 + (← hexValue c) * 16 + (← hexValue d))

/-- Read the rest of a string literal after its opening quote. -/
def readString : List Char → Option (List Char × List Char)
  | [] => none
  | '"' :: rest => some ([], rest)
  | '\\' :: e :: rest =>
    let simple : Option Char :=
      if e = '"' then some '"' else if e = '\\' then some '\\' else if e = '/' then some '/'
      else if e = 'b' then some (Char.ofNat 8) else if e = 'f' then some (Char.ofNat 12)
      else if e = 'n' then some '\n' else if e = 'r' then some '\r'
      else if e = 't' then some '\t' else none
    match simple with
    | some c => (readString rest).map fun (s, r) => (c :: s, r)
    | none =>
      if e = 'u' then
        match rest with
        | a :: b :: c :: d :: more =>
          match hex4 a b c d with
          | none => none
          | some hi =>
            if 0xD800 ≤ hi && hi < 0xDC00 then
              match more with
              | '\\' :: 'u' :: a' :: b' :: c' :: d' :: more' =>
                match hex4 a' b' c' d' with
                | some lo =>
                  if 0xDC00 ≤ lo && lo < 0xE000 then
                    let code := 0x10000 + (hi - 0xD800) * 1024 + (lo - 0xDC00)
                    (readString more').map fun (s, r) => (Char.ofNat code :: s, r)
                  else none
                | none => none
              | _ => none
            else (readString more).map fun (s, r) => (Char.ofNat hi :: s, r)
        | _ => none
      else none
  | c :: rest => if c.toNat < 32 then none else (readString rest).map fun (s, r) => (c :: s, r)

/-- Read an optional minus sign and decimal digits. -/
def readInt (cs : List Char) : Option (Int × List Char) :=
  let (negative, body) := match cs with
    | '-' :: rest => (true, rest)
    | _ => (false, cs)
  let digits := body.takeWhile Char.isDigit
  if digits.isEmpty then none
  else
    let n : Int := digits.foldl (fun n d => 10 * n + (d.toNat - '0'.toNat)) 0
    some (if negative then -n else n, body.dropWhile Char.isDigit)

mutual

/-- Read one document, at most `fuel` deep. -/
def readValue : Nat → List Char → Option (Json × List Char)
  | 0, _ => none
  | fuel + 1, cs =>
    match skipBlanks cs with
    | 'n' :: 'u' :: 'l' :: 'l' :: rest => some (.null, rest)
    | 't' :: 'r' :: 'u' :: 'e' :: rest => some (.bool true, rest)
    | 'f' :: 'a' :: 'l' :: 's' :: 'e' :: rest => some (.bool false, rest)
    | '"' :: rest => (readString rest).map fun (s, r) => (.str (String.ofList s), r)
    | '[' :: rest =>
      match skipBlanks rest with
      | ']' :: after => some (.arr [], after)
      | _ => (readItems fuel rest).map fun (items, r) => (.arr items, r)
    | '{' :: rest =>
      match skipBlanks rest with
      | '}' :: after => some (.obj [], after)
      | _ => (readMembers fuel rest).map fun (members, r) => (.obj members, r)
    | other => (readInt other).map fun (n, r) => (.num n, r)

/-- Read array elements up to the closing bracket. -/
def readItems : Nat → List Char → Option (List Json × List Char)
  | 0, _ => none
  | fuel + 1, cs =>
    match readValue fuel cs with
    | none => none
    | some (v, rest) =>
      match skipBlanks rest with
      | ',' :: more => (readItems fuel more).map fun (vs, r) => (v :: vs, r)
      | ']' :: after => some ([v], after)
      | _ => none

/-- Read object members up to the closing brace. -/
def readMembers : Nat → List Char → Option (List (String × Json) × List Char)
  | 0, _ => none
  | fuel + 1, cs =>
    match skipBlanks cs with
    | '"' :: rest =>
      match readString rest with
      | none => none
      | some (key, afterKey) =>
        match skipBlanks afterKey with
        | ':' :: valueText =>
          match readValue fuel valueText with
          | none => none
          | some (v, rest') =>
            match skipBlanks rest' with
            | ',' :: more =>
              (readMembers fuel more).map fun (ms, r) => ((String.ofList key, v) :: ms, r)
            | '}' :: after => some ([(String.ofList key, v)], after)
            | _ => none
        | _ => none
    | _ => none

end

/-- Read a whole text as one document, blanks around it allowed. -/
def read (s : String) : Option Json :=
  let cs := s.toList
  match readValue (cs.length + 1) cs with
  | some (j, rest) => if (skipBlanks rest).isEmpty then some j else none
  | none => none

end Json

end ReflectCheck
