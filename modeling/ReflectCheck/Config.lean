import ReflectCheck.Toml.Decode
import ReflectCheck.Text.Structural
import ReflectCheck.Text.Blank

/-!
# Configuration

The configuration says where fixtures are found when no paths are given, in which format
reports are written, how many fixture files are evaluated at once, which log filter is
used, and whether panics of producers are captured.

It is read from a TOML file whose keys are all optional (a missing file gives the
defaults); an unknown key is an error. After reading, two rules are checked that the
file's shape cannot express: at least one job, and a log filter that is not blank.
-/

namespace ReflectCheck

/-- The format of reports. -/
inductive OutputFormat where
  /-- One line per expectation and a summary line. -/
  | text
  /-- A pretty-printed JSON document. -/
  | json
  deriving DecidableEq, Inhabited

namespace OutputFormat

/-- The name of the format, as written in files and on the command line. -/
def name : OutputFormat → String
  | .text => "text"
  | .json => "json"

/-- The format with a name. -/
def ofName? (s : String) : Option OutputFormat :=
  if s = "text" then some .text else if s = "json" then some .json else none

/-- The structural description of the format. -/
def shape : OutputFormat → Text.Shape
  | .text => .atom "Text"
  | .json => .atom "Json"

end OutputFormat

/-- The configuration. -/
structure HarnessConfig where
  /-- The directory searched for fixture files when no paths are given. -/
  fixturesDir : String
  /-- The format of reports. -/
  format : OutputFormat
  /-- The number of fixture files evaluated at once. -/
  jobs : Nat
  /-- The log filter used when none is set in the environment. -/
  logFilter : String
  /-- Whether panics of producers become faults. -/
  catchPanics : Bool
  deriving DecidableEq, Inhabited

/-- An error in loading the configuration. -/
inductive ConfigError where
  /-- The file could not be read. -/
  | io (reason : String)
  /-- The file is not a configuration; `reason` is the document error shown with the text. -/
  | toml (reason : String)
  /-- The configuration breaks a rule. -/
  | config (message : String)
  deriving DecidableEq, Inhabited

namespace ConfigError

/-- The name of the kind of error. -/
def variant : ConfigError → String
  | .io _ => "Io"
  | .toml _ => "Toml"
  | .config _ => "Config"

/-- The message of the error. -/
def message : ConfigError → String
  | .io reason => "IO error: " ++ reason
  | .toml reason => "TOML deserialization error: " ++ reason
  | .config message => "Configuration error: " ++ message

/-- The messages of the causes. -/
def sources : ConfigError → List String
  | .io reason => [reason]
  | .toml reason => [reason]
  | .config _ => []

/-- The message followed by those of the causes, each after `: `, as a fatal error shows
    it. -/
def chain (e : ConfigError) : String := ": ".intercalate (e.message :: e.sources)

end ConfigError

namespace HarnessConfig

/-- The defaults. -/
def default : HarnessConfig := ⟨"tests/fixtures", .text, 4, "info", true⟩

/-- The keys of a configuration file. -/
def fields : List String := ["fixtures_dir", "format", "jobs", "log_filter", "catch_panics"]

open Toml in
/-- The configuration a document describes, defaults standing for missing keys. -/
def read (n : Node) : Except Error HarnessConfig := n.read fun n => do
  let entries ← readRecord "struct HarnessConfig" n
  let mut c := default
  for (k, ksp, v) in entries do
    if k = "fixtures_dir" then c := { c with fixturesDir := ← v.read (readString "path string") }
    else if k = "format" then
      let f ← v.read (readUnitVariant ["text", "json"])
      c := { c with format := (OutputFormat.ofName? f).getD .text }
    else if k = "jobs" then c := { c with jobs := ← v.read readUsize }
    else if k = "log_filter" then c := { c with logFilter := ← v.read (readString "a string") }
    else if k = "catch_panics" then c := { c with catchPanics := ← v.read readBool }
    else throw ⟨unknownField k fields, some ksp⟩
  pure c

/-- Check the rules: at least one job, and a log filter that is not blank. -/
def validate (c : HarnessConfig) : Except ConfigError Unit :=
  if c.jobs = 0 then .error (.config "jobs must be at least 1")
  else if Text.isBlankText c.logFilter then .error (.config "log_filter must not be empty")
  else .ok ()

/-- The configuration in a file's text, checked. -/
def parse (text : String) : Except ConfigError HarnessConfig := do
  let c ← match Toml.readDocument text >>= read with
    | .ok c => pure c
    | .error e => throw (.toml (e.render text))
  c.validate
  pure c

/-- The configuration from a file that may be missing (`none`): the defaults then. -/
def load (content : Option (Except String String)) : Except ConfigError HarnessConfig :=
  match content with
  | none => .ok default
  | some (.error reason) => .error (.io reason)
  | some (.ok text) => parse text

/-- The structural description of the configuration. -/
def shape (c : HarnessConfig) : Text.Shape :=
  .record "HarnessConfig" [("fixtures_dir", .text c.fixturesDir), ("format", c.format.shape),
    ("jobs", .nat c.jobs), ("log_filter", .text c.logFilter),
    ("catch_panics", .bool c.catchPanics)] false

end HarnessConfig

end ReflectCheck
