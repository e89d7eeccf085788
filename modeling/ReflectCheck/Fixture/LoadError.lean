import ReflectCheck.Shapes

/-!
# Errors in loading fixtures

Loading a fixture fails when its file cannot be read, when its text is not a fixture
file, when it has no name, when a module or entity name is not a constant name, when
it declares a constant twice, when an entity cannot be declared, or when an example's
expected value cannot be evaluated. Every message names the fixture by its origin: the
path it was read from, or `<inline>`.

Some errors have a cause of their own (the reading error, the document error, the
fault), which is listed by `LoadError.sources`.
-/

namespace ReflectCheck.Fixture

/-- An error in loading a fixture. -/
inductive LoadError where
  /-- The file could not be read. -/
  | io (path : String) (reason : String)
  /-- The text is not a fixture file; `reason` is the document error, shown with the text. -/
  | parse (origin : String) (reason : String)
  /-- The name is blank. -/
  | missingName (origin : String)
  /-- A name used as a module or entity (the `role`) is not a constant name. -/
  | invalidName (origin : String) (name : String) (role : String)
  /-- A constant is declared twice. -/
  | duplicateEntity (origin : String) (name : String)
  /-- An entity could not be declared. -/
  | entity (origin : String) (name : String) (source : Fault)
  /-- An example's expected value could not be evaluated. -/
  | expected (origin : String) (description : String) (source : Fault)
  deriving Inhabited

namespace LoadError

/-- The name of the kind of error. -/
def variant : LoadError → String
  | .io .. => "Io"
  | .parse .. => "Parse"
  | .missingName .. => "MissingName"
  | .invalidName .. => "InvalidName"
  | .duplicateEntity .. => "DuplicateEntity"
  | .entity .. => "Entity"
  | .expected .. => "Expected"

/-- The message of the error. -/
def message : LoadError → String
  | .io path reason => "failed to read fixture " ++ path ++ ": " ++ reason
  | .parse origin reason => "failed to parse fixture " ++ origin ++ ": " ++ reason
  | .missingName origin => "fixture " ++ origin ++ " has no name"
  | .invalidName origin name role =>
    "fixture " ++ origin ++ " uses `" ++ name ++ "` as a " ++ role ++
      " name; constants start with an uppercase letter"
  | .duplicateEntity origin name =>
    "fixture " ++ origin ++ " declares constant " ++ name ++ " more than once"
  | .entity origin name source =>
    "fixture " ++ origin ++ " cannot declare " ++ name ++ ": " ++ source.message
  | .expected origin description source =>
    "fixture " ++ origin ++ " cannot evaluate expected value of `" ++ description ++ "`: " ++
      source.message

/-- The messages of the causes, outermost first. -/
def sources : LoadError → List String
  | .io _ reason => [reason]
  | .parse _ reason => [reason]
  | .entity _ _ source => [source.message]
  | .expected _ _ source => [source.message]
  | _ => []

/-- The structural description of the error, for the errors that are not about reading
    or parsing. -/
def shape? : LoadError → Option Text.Shape
  | .missingName origin => some (.record "MissingName" [("origin", .text origin)] false)
  | .invalidName origin name role =>
    some (.record "InvalidName" [("origin", .text origin), ("name", .text name),
      ("role", .text role)] false)
  | .duplicateEntity origin name =>
    some (.record "DuplicateEntity" [("origin", .text origin), ("name", .text name)] false)
  | .entity origin name source =>
    some (.record "Entity" [("origin", .text origin), ("name", .text name),
      ("source", source.shape)] false)
  | .expected origin description source =>
    some (.record "Expected" [("origin", .text origin), ("description", .text description),
      ("source", source.shape)] false)
  | _ => none

end LoadError

end ReflectCheck.Fixture
