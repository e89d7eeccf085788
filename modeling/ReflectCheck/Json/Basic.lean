/-!
# JSON documents

The JSON documents that reports are written as: null, booleans, integers, strings,
arrays and objects whose members keep the order they are given in. Reports are written
pretty-printed (`Json.pretty`): members and elements on lines of their own, indented by
two spaces per level, `": "` between a key and its value, and empty arrays and objects
as `[]` and `{}`. In strings the double quote, the backslash and the control characters
are escaped, the common ones by name (`\n`, `\t`, ...) and the others as `\u00xx`; all
other characters stand as themselves.
-/

namespace ReflectCheck

/-- A JSON document. -/
inductive Json where
  /-- `null`. -/
  | null
  /-- `true` or `false`. -/
  | bool (b : Bool)
  /-- An integer. -/
  | num (n : Int)
  /-- A string. -/
  | str (s : String)
  /-- An array. -/
  | arr (items : List Json)
  /-- An object, members in order. -/
  | obj (members : List (String × Json))
  deriving Inhabited, BEq

namespace Json

/-- The escape of one character inside a JSON string. -/
def escapeChar (c : Char) : List Char :=
  if c = '"' then ['\\', '"']
  else if c = '\\' then ['\\', '\\']
  else if c = '\n' then ['\\', 'n']
  else if c = '\r' then ['\\', 'r']
  else if c = '\t' then ['\\', 't']
  else if c.toNat = 8 then ['\\', 'b']
  else if c.toNat = 12 then ['\\', 'f']
  else if c.toNat < 32 then
    let hex := Nat.toDigits 16 c.toNat
    ['\\', 'u', '0', '0'] ++ (if hex.length < 2 then ['0'] else []) ++ hex
  else [c]

/-- A string as a JSON string literal. -/
def quote (s : String) : String :=
  String.ofList ('"' :: s.toList.flatMap escapeChar ++ ['"'])

/-- Two spaces per level of nesting. -/
def indent (level : Nat) : String := String.ofList (List.replicate (2 * level) ' ')

mutual

/-- The document pretty-printed, its nested lines indented for `level`. -/
def prettyAt (level : Nat) : Json → String
  | .null => "null"
  | .bool b => if b then "true" else "false"
  | .num n => toString n
  | .str s => quote s
  | .arr [] => "[]"
  | .arr items => "[\n" ++ prettyItems (level + 1) items ++ "\n" ++ indent level ++ "]"
  | .obj [] => "\x7b\x7d"
  | .obj members =>
    "\x7b\n" ++ prettyMembers (level + 1) members ++ "\n" ++ indent level ++ "\x7d"

/-- Array elements, one per line. -/
def prettyItems (level : Nat) : List Json → String
  | [] => ""
  | [v] => indent level ++ prettyAt level v
  | v :: rest => indent level ++ prettyAt level v ++ ",\n" ++ prettyItems level rest

/-- Object members, one per line. -/
def prettyMembers (level : Nat) : List (String × Json) → String
  | [] => ""
  | [(k, v)] => indent level ++ quote k ++ ": " ++ prettyAt level v
  | (k, v) :: rest =>
    indent level ++ quote k ++ ": " ++ prettyAt level v ++ ",\n" ++ prettyMembers level rest

end

/-- The document pretty-printed. -/
def pretty (j : Json) : String := prettyAt 0 j

/-- Insert a member into members sorted by key. -/
def insertMember (m : String × Json) : List (String × Json) → List (String × Json)
  | [] => [m]
  | n :: rest => if m.1 < n.1 then m :: n :: rest else n :: insertMember m rest

mutual

/-- The document with the members of every object sorted by key. -/
def sortKeys : Json → Json
  | .arr items => .arr (sortItems items)
  | .obj members => .obj ((sortMembers members).foldr insertMember [])
  | j => j

/-- Elements with their objects sorted. -/
def sortItems : List Json → List Json
  | [] => []
  | v :: rest => sortKeys v :: sortItems rest

/-- Members with their values' objects sorted. -/
def sortMembers : List (String × Json) → List (String × Json)
  | [] => []
  | (k, v) :: rest => (k, sortKeys v) :: sortMembers rest

end

end Json

end ReflectCheck
