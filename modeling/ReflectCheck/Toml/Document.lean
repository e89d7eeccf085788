import ReflectCheck.Toml.Parse
import ReflectCheck.Toml.Scalar

/-!
# TOML documents

A document is a tree of tables, arrays and scalars, each with the byte range it was
written at. It is built from the items of the text in order: a header starts a table
(or a table to append to an array of tables), key-value pairs fill it, and it is put in
its place in the root when the next header comes or the text ends.

Building reports the first of these errors, in the order they are met:

* a key or scalar whose text does not read (an empty or invalid bare key, an unclosed
  string, an unknown escape, a word that is no value), or a path of more than 80 keys;
* "duplicate key", at a key that names something already there, at the last key of a
  header for a table already defined, or at the last key of a dotted key whose table
  was not made by dotted keys. Tables named on the way to a header's table can be
  defined by a header later; tables made by dotted keys can be extended by dotted keys
  only;
* "cannot extend value of type T with a dotted key", at a key on the way to a value
  (of a header or a dotted key) that names a scalar, an array written inline or an
  inline table, which no key can go into.

A header first puts the table filled so far in its place, then its keys are read; a
table header is checked against the document at once, an array header only when its
table is put in place. Within a key-value pair, keys are read first, then the value,
then the value is put in place.
-/

namespace ReflectCheck.Toml

/-- How a table came to be, which decides how it may be extended. -/
inductive TableOrigin where
  /-- Named on the way to a header's table. -/
  | implicit
  /-- Defined by a header (or the document itself). -/
  | header
  /-- Made by a dotted key. -/
  | dotted
  /-- Written inline. -/
  | inline
  deriving DecidableEq, Inhabited

/-- A node of a document, with the byte range it was written at. -/
inductive Node where
  /-- A scalar. -/
  | scalar (value : Scalar) (span : Span)
  /-- An array; `ofTables` marks an array of tables made by headers. -/
  | array (items : List Node) (ofTables : Bool) (span : Span)
  /-- A table: its entries in the order written, each with the key's range. -/
  | table (entries : List (String × Span × Node)) (origin : TableOrigin) (span : Span)
  deriving Inhabited

/-- An entry of a table: key, the key's range, and value. -/
abbrev Entry := String × Span × Node

namespace Node

/-- Where the node was written. -/
def span : Node → Span
  | .scalar _ s => s
  | .array _ _ s => s
  | .table _ _ s => s

end Node

/-- The error for a key naming something already there. -/
def duplicateKey (span : Span) : Error := ⟨"duplicate key", some span⟩

/-- The kind of a value that is no table to go into, as messages name it. -/
def Node.kindName : Node → String
  | .scalar v _ => v.kindName
  | .array _ _ _ => "array"
  | .table _ .inline _ => "inline table"
  | .table _ _ _ => "table"

/-- The error for a key on the way to a value that names a value no key can go into: a
    scalar, an array written inline, or an inline table. -/
def cannotExtend (n : Node) (span : Span) : Error :=
  ⟨"cannot extend value of type " ++ n.kindName ++ " with a dotted key", some span⟩

/-- An error in the text at `span`, its range given relative to that text. -/
def scalarError (span : Span) (e : ScalarError) : Error := ⟨e.1, some (e.2.shift span.start)⟩

/-- The value of a key, with where it was written. -/
def Key.read (k : Key) : Except Error (String × Span) :=
  let r : Except ScalarError String := match k.kind with
    | .basicString => basicString k.raw
    | .literalString => literalString k.raw
    | .mlBasicString =>
      .error ("keys cannot be multi-line basic strings, expected basic string, literal string",
        ⟨0, k.span.stop - k.span.start⟩)
    | .mlLiteralString =>
      .error ("keys cannot be multi-line literal strings, expected basic string, literal string",
        ⟨0, k.span.stop - k.span.start⟩)
    | _ => unquotedKey k.raw
  match r with
  | .ok s => .ok (s, k.span)
  | .error e => .error (scalarError k.span e)

/-- The value of a scalar written at `span`. -/
def readScalar (kind : TokenKind) (raw : List Char) (span : Span) : Except Error Node :=
  let r : Except ScalarError Scalar := match kind with
    | .basicString => (basicString raw).map .str
    | .literalString => (literalString raw).map .str
    | .mlBasicString => (mlBasicString raw).map .str
    | .mlLiteralString => (mlLiteralString raw).map .str
    | _ => unquotedScalar raw
  match r with
  | .ok v => .ok (.scalar v span)
  | .error e => .error (scalarError span e)

/-- The value of the entry with key `k`. -/
def lookup (k : String) : List Entry → Option Node
  | [] => none
  | (k', _, n) :: rest => if k' = k then some n else lookup k rest

/-- Replace the value of the entry with key `k`. -/
def replaceEntry (k : String) (n : Node) : List Entry → List Entry
  | [] => []
  | (k', s, m) :: rest => if k' = k then (k', s, n) :: rest else (k', s, m) :: replaceEntry k n rest

/-- Put a value at a dotted path of keys into a table's entries, making tables for the
    keys before the last. A key on the way may go into a table made by dotted keys or
    named on the way to a header's table, and into the last table of an array of
    tables; the table the last key goes into must be one made by dotted keys
    (`reachedDotted`), unless the path is a single key. Within an inline table
    (`inInline`) a table written inline is a defined table; elsewhere no key goes into
    it. -/
def insertValue (inInline : Bool) :
    Bool → List (String × Span) → Node → List Entry → Except Error (List Entry)
  | _, [], _, es => .ok es
  | reachedDotted, [(k, sp)], n, es =>
    if !reachedDotted then .error (duplicateKey sp)
    else
      match lookup k es with
      | some _ => .error (duplicateKey sp)
      | none => .ok (es ++ [(k, sp, n)])
  | _, (k, sp) :: rest, n, es =>
    match lookup k es with
    | none =>
      (insertValue inInline true rest n []).map fun inner =>
        es ++ [(k, sp, .table inner .dotted sp)]
    | some (.table inner origin tsp) =>
      if origin = .dotted || origin = .implicit then
        (insertValue inInline (origin = .dotted) rest n inner).map fun inner' =>
          replaceEntry k (.table inner' origin tsp) es
      else if origin = .inline && !inInline then .error (cannotExtend (.table inner origin tsp) sp)
      else .error (duplicateKey sp)
    | some (.array items true asp) =>
      match items.reverse with
      | .table inner origin tsp :: before =>
        (insertValue inInline false rest n inner).map fun inner' =>
          replaceEntry k (.array (.table inner' origin tsp :: before).reverse true asp) es
      | _ => .error (duplicateKey sp)
    | some other => .error (cannotExtend other sp)

/-- Change the entries of the table at a header's path of keys with `f`, making tables
    for keys not there yet and going into the last table of an array of tables. No key
    goes into a table written inline or any other value. -/
def withHeaderTable (f : List Entry → Except Error (List Entry)) :
    List (String × Span) → List Entry → Except Error (List Entry)
  | [], es => f es
  | (k, sp) :: rest, es =>
    match lookup k es with
    | none =>
      (withHeaderTable f rest []).map fun inner => es ++ [(k, sp, .table inner .implicit sp)]
    | some (.table inner origin tsp) =>
      if origin = .inline then .error (cannotExtend (.table inner origin tsp) sp)
      else
        (withHeaderTable f rest inner).map fun inner' =>
          replaceEntry k (.table inner' origin tsp) es
    | some (.array items true asp) =>
      match items.reverse with
      | .table inner origin tsp :: before =>
        (withHeaderTable f rest inner).map fun inner' =>
          replaceEntry k (.array (.table inner' origin tsp :: before).reverse true asp) es
      | _ => .error (duplicateKey sp)
    | some other => .error (cannotExtend other sp)

/-- The entries a table header `[keys]` starts with: none for a new table, those of a
    table so far only named on the way to another header's table. A table defined
    already, or any other value, makes the header a duplicate; the way to it is checked
    as `withHeaderTable` goes it. -/
def headerStart : List (String × Span) → List Entry → Except Error (List Entry)
  | [], _ => .ok []
  | [(k, sp)], es =>
    match lookup k es with
    | none => .ok []
    | some (.table inner .implicit _) => .ok inner
    | some _ => .error (duplicateKey sp)
  | (k, sp) :: rest, es =>
    match lookup k es with
    | none => .ok []
    | some (.table inner origin tsp) =>
      if origin = .inline then .error (cannotExtend (.table inner origin tsp) sp)
      else headerStart rest inner
    | some (.array items true _) =>
      match items.getLast? with
      | some (.table inner _ _) => headerStart rest inner
      | _ => .ok []
    | some other => .error (cannotExtend other sp)

/-- A header being filled: whether it names an array of tables, its keys and where it
    is written. -/
structure OpenHeader where
  /-- Whether the header is `[[keys]]`. -/
  isArray : Bool
  /-- The keys, read. -/
  keys : List (String × Span)
  /-- Where the header is written. -/
  span : Span

/-- Put the table filled under a header into the root's entries: a table header's table
    takes the place of the table only named so far, or is added; an array header's
    table is appended to its array of tables, which is made if it is not there. -/
def OpenHeader.place (h : OpenHeader) (entries : List Entry) (root : List Entry) :
    Except Error (List Entry) :=
  let table := Node.table entries .header h.span
  match h.keys.getLast? with
  | none => .ok root
  | some (k, sp) =>
    withHeaderTable (fun es =>
      match lookup k es, h.isArray with
      | none, false => .ok (es ++ [(k, sp, table)])
      | some (.table _ .implicit _), false =>
        .ok (es.map fun e => if e.1 = k then (k, sp, table) else e)
      | none, true => .ok (es ++ [(k, sp, .array [table] true h.span)])
      | some (.array items true asp), true =>
        .ok (replaceEntry k (.array (items ++ [table]) true asp) es)
      | _, _ => .error (duplicateKey sp)) h.keys.dropLast root

/-- The most keys a path may have. -/
def maxKeys : Nat := 80

/-- Fail on a path of more than `maxKeys` keys. -/
def checkKeyCount (ks : List (String × Span)) : Except Error Unit :=
  if maxKeys < ks.length then .error ⟨"recursion limit", none⟩ else .ok ()

mutual

/-- The node of a value as written. -/
def readValue : Syntax → Except Error Node
  | .scalar kind raw span => readScalar kind raw span
  | .array items span =>
    match readItems items with
    | .ok ns => .ok (.array ns false span)
    | .error e => .error e
  | .table entries span =>
    match readEntries [] entries with
    | .ok es => .ok (.table es .inline span)
    | .error e => .error e

/-- The nodes of array elements. -/
def readItems : List Syntax → Except Error (List Node)
  | [] => .ok []
  | v :: rest =>
    match readValue v with
    | .ok n =>
      match readItems rest with
      | .ok ns => .ok (n :: ns)
      | .error e => .error e
    | .error e => .error e

/-- The entries of an inline table, added to `acc` in order. -/
def readEntries (acc : List Entry) : List (List Key × Syntax) → Except Error (List Entry)
  | [] => .ok acc
  | (keys, v) :: rest =>
    match keys.mapM Key.read with
    | .ok ks =>
      match checkKeyCount ks with
      | .ok () =>
        match readValue v with
        | .ok n =>
          match insertValue true true ks n acc with
          | .ok acc' => readEntries acc' rest
          | .error e => .error e
        | .error e => .error e
      | .error e => .error e
    | .error e => .error e

end

/-- A document being built: the root table's entries, and the table being filled, which
    is the root itself until the first header. -/
structure Builder where
  /-- The entries of the root table, once the first header is read. -/
  root : List Entry
  /-- The entries of the table being filled. -/
  current : List Entry
  /-- The header of the table being filled (none for the root). -/
  header : Option OpenHeader

/-- The root's entries with the table being filled in its place. -/
def Builder.finish (b : Builder) : Except Error (List Entry) :=
  match b.header with
  | none => .ok b.current
  | some h => h.place b.current b.root

/-- Add an item to a document being built. A header first puts the table filled so far
    in its place, then reads its keys; a table header is checked at once, an array
    header only when its table is put in place, at the next header or the end. A
    key-value pair goes into the table being filled. -/
def Builder.add (b : Builder) : Item → Except Error Builder
  | .header isArray keys span => do
    let root ← b.finish
    let ks ← keys.mapM Key.read
    checkKeyCount ks
    let current ← if isArray then pure [] else headerStart ks root
    pure ⟨root, current, some ⟨isArray, ks, span⟩⟩
  | .entry keys value => do
    let ks ← keys.mapM Key.read
    checkKeyCount ks
    let n ← readValue value
    let current ← insertValue false true ks n b.current
    pure { b with current }

/-- The document a TOML text describes, as its root table, placed at the start of the
    text, or the first error in it. -/
def readDocument (s : String) : Except Error Node := do
  let items ← parseItems s
  let b ← items.foldlM Builder.add ⟨[], [], none⟩
  let root ← b.finish
  pure (.table root .header ⟨0, 0⟩)

end ReflectCheck.Toml
