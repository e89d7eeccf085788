import ReflectCheck.Toml.Decode

/-!
# Fixture files

A fixture file is a TOML document:

```
name = "class_pe"
module = "ClassPEFixtures"

[[entities]]
kind = "class"
name = "A"

[[entities]]
kind = "instance"
name = "AInstance"
class = "ClassPEFixtures::A"

[[examples]]
description = "ClassPEFixtures::AInstance.class"
expected = "ClassPEFixtures::A"
```

`name` is required; `description` (empty by default), `module`, `entities` and `examples`
may be left out; any other key is an error. An entity is a table tagged by `kind`: a
`class` with a `name` and an optional `superclass` expression, or an `instance` with a
`name` and a `class` expression; keys an entity does not use are ignored. An example has
an optional `description` and a required `expected`, and nothing else.

An entity is read through its whole table at once, so all errors inside it, except one
in its `kind`, are reported at the entity (its `[[entities]]` header), not at the key or
value they are about.
-/

namespace ReflectCheck.Fixture

open Toml

/-- An entity declaration. -/
inductive EntityDecl where
  /-- A class, with the expression of its superclass (`Object` when absent). -/
  | cls (name : String) (superclass : Option String)
  /-- An instance of the class an expression gives. -/
  | inst (name : String) (cls : String)
  deriving Inhabited

namespace EntityDecl

/-- The constant name being declared. -/
def name : EntityDecl → String
  | .cls n _ => n
  | .inst n _ => n

end EntityDecl

/-- An example: an expression giving the actual value (its description) and one giving
    the expected value. -/
structure ExampleDecl where
  /-- The expression for the actual value, which also describes the example. -/
  description : String
  /-- The expression for the expected value. -/
  expected : String
  deriving Inhabited

/-- A fixture file. -/
structure FixtureFile where
  /-- The fixture's name. -/
  name : String
  /-- A free-form description. -/
  description : String
  /-- The module the entities are declared in. -/
  module : Option String
  /-- The entity declarations, in order. -/
  entities : List EntityDecl
  /-- The example declarations, in order. -/
  examples : List ExampleDecl
  deriving Inhabited

/-- The keys of a fixture file. -/
def fileFields : List String := ["name", "description", "module", "entities", "examples"]

/-- The keys of an example. -/
def exampleFields : List String := ["description", "expected"]

/-- The kinds of entities. -/
def entityKinds : List String := ["class", "instance"]

/-- An example, from a table or from an array of its two expressions. -/
def readExample (n : Node) : Except Error ExampleDecl :=
  match n with
  | .array items _ _ =>
    let wanted := "struct ExampleDecl with 2 elements"
    match items with
    | [] => .error (plainError (invalidLength 1 wanted))
    | [d] => do
      let _ ← d.read (readString "a string")
      .error (plainError (invalidLength 1 wanted))
    | d :: e :: _ => do
      let description ← d.read (readString "a string")
      let expected ← e.read (readString "a string")
      pure ⟨description, expected⟩
  | _ => do
    let entries ← readRecord "struct ExampleDecl" n
    let mut description := none
    let mut expected := none
    for (k, ksp, v) in entries do
      if k = "description" then description := some (← v.read (readString "a string"))
      else if k = "expected" then expected := some (← v.read (readString "a string"))
      else throw ⟨unknownField k exampleFields, some ksp⟩
    match expected with
    | none => throw (plainError (missingField "expected"))
    | some e => pure ⟨description.getD "", e⟩

mutual

/-- Whether a value can be held as it is while an entity's kind is looked for: integers
    wider than 64 bits and floats beyond the finite ones cannot. Tables are gone through
    in the order of their keys. -/
def holdable : Node → Except Error Unit
  | .scalar (.int none) sp => .error ⟨"integer number overflowed", some sp⟩
  | .scalar (.float none) sp => .error ⟨"floating-point number overflowed", some sp⟩
  | .scalar (.int (some i)) sp =>
    match intWidth i with
    | .signed | .unsigned => .ok ()
    | .overflow => .error ⟨"integer number overflowed", some sp⟩
    | _ => .error ⟨"invalid type: " ++ intShown i ++ ", expected any value", some sp⟩
  | .scalar _ _ => .ok ()
  | .array items _ _ => holdableItems items
  | .table entries _ _ =>
    match unholdableEntry entries with
    | some (_, e) => .error e
    | none => .ok ()

/-- Whether array elements can be held. -/
def holdableItems : List Node → Except Error Unit
  | [] => .ok ()
  | n :: rest => do holdable n; holdableItems rest

/-- The value among a table's entries that cannot be held whose key comes first, with its
    key and error. -/
def unholdableEntry : List Entry → Option (String × Error)
  | [] => none
  | (k, _, n) :: rest =>
    let later := unholdableEntry rest
    match holdable n, later with
    | .error e, some (k', e') => if k' < k then some (k', e') else some (k, e)
    | .error e, none => some (k, e)
    | .ok (), _ => later

end

/-- The kind named by an entity's `kind`: a string naming it. An unsigned integer beyond
    the signed 64-bit ones is taken for an index of the kinds, and is out of range. -/
def readKind (n : Node) : Except Error String :=
  match n with
  | .scalar (.str s) _ =>
    if s ∈ entityKinds then .ok s else .error (plainError (unknownVariant s entityKinds))
  | .scalar (.int (some i)) _ =>
    if intWidth i = .unsigned then
      .error (plainError ("invalid value: integer `" ++ toString i ++
        "`, expected variant index 0 <= i < " ++ toString entityKinds.length))
    else .error (mismatch n "variant identifier")
  | _ => .error (mismatch n "variant identifier")

/-- The fields of an entity of a kind, from its other entries (in key order). -/
def entityOfEntries (kind : String) (entries : List Entry) : Except Error EntityDecl := do
  let mut name := none
  let mut superclass := none
  let mut cls := none
  for (k, _, v) in entries do
    if k = "name" then name := some (← readString "a string" v)
    else if kind = "class" && k = "superclass" then superclass := some (← readString "a string" v)
    else if kind = "instance" && k = "class" then cls := some (← readString "a string" v)
    else pure ()
  match name with
  | none => throw (plainError (missingField "name"))
  | some nm =>
    if kind = "class" then pure (.cls nm superclass)
    else
      match cls with
      | some c => pure (.inst nm c)
      | none => throw (plainError (missingField "class"))

/-- The message for a sequence with elements left over after `count` were used. -/
def leftOver (count total : Nat) : String :=
  invalidLength total
    (if count = 1 then "1 element in sequence" else toString count ++ " elements in sequence")

/-- The fields of an entity of a kind, from the elements after its kind. -/
def entityOfItems (kind : String) (items : List Node) : Except Error EntityDecl :=
  let wanted := if kind = "class" then "struct variant EntityDecl::Class with 2 elements"
    else "struct variant EntityDecl::Instance with 2 elements"
  match items with
  | [] => .error (plainError (invalidLength 0 wanted))
  | n :: more => do
    let name ← readString "a string" n
    if kind = "class" then
      match more with
      | [] => pure (.cls name none)
      | [s] => pure (.cls name (some (← readString "a string" s)))
      | s :: _ => do
        let _ ← readString "a string" s
        throw (plainError (leftOver 2 items.length))
    else
      match more with
      | [] => throw (plainError (invalidLength 1 wanted))
      | [c] => pure (.inst name (← readString "a string" c))
      | c :: _ => do
        let _ ← readString "a string" c
        throw (plainError (leftOver 2 items.length))

/-- An entity as far as its kind: the kind with the other entries of a table, or with
    the elements after the kind of an array. -/
inductive TaggedEntity where
  /-- A table's kind and its other entries, in key order. -/
  | entries (kind : String) (rest : List Entry)
  /-- An array's kind and the elements after it. -/
  | items (kind : String) (rest : List Node)

/-- The kind of an entity, and the rest held for reading its fields: a table (or a date
    read as one) with its kind under `kind`, or an array whose first element is the
    kind. -/
def entityTag (n : Node) : Except Error TaggedEntity :=
  match n.entries?, n with
  | some entries, _ => do
    let mut kind := none
    let mut rest := #[]
    for (k, ksp, v) in sortEntries entries do
      if k = "kind" then kind := some (← v.read readKind)
      else
        holdable v
        rest := rest.push (k, ksp, v)
    match kind with
    | none => throw (plainError (missingField "kind"))
    | some kd => pure (.entries kd rest.toList)
  | none, .array items _ _ =>
    match items with
    | [] => .error (plainError (missingField "kind"))
    | t :: rest => do
      let kd ← t.read readKind
      holdableItems rest
      pure (.items kd rest)
  | none, _ => .error (mismatch n "internally tagged enum EntityDecl")

/-- The entity of a kind from the rest of its fields. -/
def TaggedEntity.entity : TaggedEntity → Except Error EntityDecl
  | .entries kind rest => entityOfEntries kind rest
  | .items kind rest => entityOfItems kind rest

/-- The entities of an array. Finding an entity's kind reads its own value, so its errors
    point at the entity; its fields are read from what was held, apart from the document,
    so their errors point at the whole array. -/
def readEntities (n : Node) : Except Error (List EntityDecl) :=
  match n with
  | .array items _ _ => items.mapM fun item => do (← item.read entityTag).entity
  | _ => .error (mismatch n "a sequence")

/-- A fixture file from its document. -/
def readFile (n : Node) : Except Error FixtureFile := n.read fun n => do
  let entries ← readRecord "struct FixtureFile" n
  let mut name := none
  let mut description := none
  let mut module := none
  let mut entities := none
  let mut examples := none
  for (k, ksp, v) in entries do
    if k = "name" then name := some (← v.read (readString "a string"))
    else if k = "description" then description := some (← v.read (readString "a string"))
    else if k = "module" then module := some (← v.read (readString "a string"))
    else if k = "entities" then entities := some (← v.read readEntities)
    else if k = "examples" then examples := some (← v.read (readSeq readExample))
    else throw ⟨unknownField k fileFields, some ksp⟩
  match name with
  | none => throw (plainError (missingField "name"))
  | some nm => pure ⟨nm, description.getD "", module, entities.getD [], examples.getD []⟩

/-- A fixture file from its text, or the first error in it. -/
def parseFile (text : String) : Except Error FixtureFile := do
  readFile (← readDocument text)

end ReflectCheck.Fixture
