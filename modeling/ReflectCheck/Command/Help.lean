/-!
# The command line and its help

The command line of the harness:

```
exemplar [OPTIONS] <COMMAND>
  run  [OPTIONS] [PATHS]...   load and evaluate fixtures
  list [OPTIONS] [PATHS]...   list discovered fixture files
  help [COMMAND]...           print help
```

with `-c, --config <CONFIG>` everywhere, `-f, --format <FORMAT>`, `-j, --jobs <JOBS>` and
`--no-catch-panics` for `run`, `-h, --help` everywhere but `help`, and `-V, --version` at
the top.

Help comes in a short form (`-h`) and a long form (`--help`). The short form puts each
argument on one line, its help aligned in a column after the longest argument of its
section, with the default and the possible values in brackets. The long form puts the
help on the lines below each argument, indented, with a blank line between arguments,
and lists possible values with their own help. A command whose arguments have nothing
more to say in the long form shows the short form for both.
-/

namespace ReflectCheck.Command

/-- An option of a command. -/
structure OptSpec where
  /-- The short name, if any. -/
  short : Option Char
  /-- The long name. -/
  long : String
  /-- The name of the value, for options that take one. -/
  value : Option String
  /-- The help text. -/
  help : String
  /-- The help text of the long form, when it differs. -/
  longHelp : Option String := none
  /-- The default value shown. -/
  default : Option String := none
  /-- The possible values, with their help. -/
  choices : List (String × String) := []

namespace OptSpec

/-- The option as written in messages: `--long <VALUE>` or `--long`. -/
def display (o : OptSpec) : String :=
  match o.value with
  | some v => "--" ++ o.long ++ " <" ++ v ++ ">"
  | none => "--" ++ o.long

/-- The option as shown in help: `-s, --long <VALUE>`, or four spaces for a missing
    short name. -/
def spec (o : OptSpec) : String :=
  (match o.short with
    | some c => "-" ++ String.singleton c ++ ", "
    | none => "    ") ++ o.display

/-- Whether the long form of help has more to say about the option. -/
def hasLongHelp (o : OptSpec) : Bool := o.longHelp.isSome || !o.choices.isEmpty

end OptSpec

/-- A command: what its help shows. -/
structure CommandSpec where
  /-- What the command does. -/
  about : String
  /-- The usage line, without `Usage: `. -/
  usage : String
  /-- The subcommands with what they do. -/
  subcommands : List (String × String) := []
  /-- The positional arguments as shown, with their help. -/
  positionals : List (String × String) := []
  /-- The options, in the order shown. -/
  options : List OptSpec
  /-- The command's own arguments (`paths` standing for the paths), which a usage line
      may show together as one alternative `<A|B|…>`. -/
  own : List String := []

/-- The long names of a command's options in the order they were added to it, which is
    the order similar names are weighed in: its own arguments, then the options it
    shares with the program, then help and version. -/
def CommandSpec.longNames (spec : CommandSpec) : List String :=
  let longs := spec.options.map (·.long)
  let own := spec.own.filter (· ∈ longs)
  let shared := longs.filter fun n => !(n ∈ own) && n ≠ "help" && n ≠ "version"
  own ++ shared ++ (["help", "version"].filter (· ∈ longs))

/-- The name of the program. -/
def programName : String := "exemplar"

/-- The version line. -/
def versionText : String := programName ++ " 0.1.0\n"

/-- `--config`, known to every command. -/
def configOpt : OptSpec :=
  { short := some 'c', long := "config", value := some "CONFIG", help := "Harness configuration file",
    default := some "exemplar.toml" }

/-- `--format` of `run`. -/
def formatOpt : OptSpec :=
  { short := some 'f', long := "format", value := some "FORMAT", help := "Report format",
    choices := [("text", "Human-readable lines"), ("json", "Pretty-printed JSON")] }

/-- `--jobs` of `run`. -/
def jobsOpt : OptSpec :=
  { short := some 'j', long := "jobs", value := some "JOBS",
    help := "Maximum number of fixture files evaluated at once" }

/-- `--no-catch-panics` of `run`. -/
def noCatchPanicsOpt : OptSpec :=
  { short := none, long := "no-catch-panics", value := none,
    help := "Re-raise producer panics, aborting the run, instead of reporting them as fixture errors" }

/-- `--help` of a command, whose help says whether a long form exists. -/
def helpOpt (longExists : Bool) : OptSpec :=
  if longExists then
    { short := some 'h', long := "help", value := none, help := "Print help (see more with '--help')",
      longHelp := some "Print help (see a summary with '-h')" }
  else { short := some 'h', long := "help", value := none, help := "Print help" }

/-- `--version` of the top command. -/
def versionOpt : OptSpec :=
  { short := some 'V', long := "version", value := none, help := "Print version" }

/-- The positional paths of `run` and `list`. -/
def pathsArg : String × String :=
  ("[PATHS]...", "Fixture files or directories [default: `fixtures_dir` from config]")

/-- The top command. -/
def topSpec : CommandSpec where
  about := "Run reflective identity expectations from fixture files"
  usage := programName ++ " [OPTIONS] <COMMAND>"
  subcommands := [("run", "Load and evaluate fixtures, exiting non-zero unless everything passes"),
    ("list", "List discovered fixture files"),
    ("help", "Print this message or the help of the given subcommand(s)")]
  options := [configOpt, helpOpt false, versionOpt]
  own := ["config"]

/-- The `run` command. -/
def runSpec : CommandSpec where
  about := "Load and evaluate fixtures, exiting non-zero unless everything passes"
  usage := programName ++ " run [OPTIONS] [PATHS]..."
  positionals := [pathsArg]
  options := [configOpt, formatOpt, jobsOpt, noCatchPanicsOpt, helpOpt true]
  own := ["paths", "format", "jobs", "no-catch-panics"]

/-- The `list` command. -/
def listSpec : CommandSpec where
  about := "List discovered fixture files"
  usage := programName ++ " list [OPTIONS] [PATHS]..."
  positionals := [pathsArg]
  options := [configOpt, helpOpt false]
  own := ["paths"]

/-- The `help` command. -/
def helpSpec : CommandSpec where
  about := "Print this message or the help of the given subcommand(s)"
  usage := programName ++ " help [COMMAND]..."
  positionals := [("[COMMAND]...", "Print help for the subcommand(s)")]
  options := []

/-- Spaces. -/
def spaces (n : Nat) : String := String.ofList (List.replicate n ' ')

/-- Text padded with spaces to a width. -/
def padTo (s : String) (width : Nat) : String := s ++ spaces (width - s.length)

/-- The bracketed notes of an option in the short form: default and possible values. -/
def OptSpec.notes (o : OptSpec) (long : Bool) : List String :=
  (match o.default with
    | some d => ["[default: " ++ d ++ "]"]
    | none => []) ++
  (if o.choices.isEmpty || long then []
    else ["[possible values: " ++ ", ".intercalate (o.choices.map (·.1)) ++ "]"])

/-- Text with every line after the first indented. -/
def indentRest (s : String) (indent : String) : String :=
  "\n".intercalate (match s.splitOn "\n" with
    | first :: rest => first :: rest.map (indent ++ ·)
    | [] => [])

/-- An option in the long form: the option, then its help below, indented. -/
def OptSpec.longEntry (o : OptSpec) : String :=
  let indent := spaces 10
  let help := o.longHelp.getD o.help
  let notes := o.notes true
  let body := if notes.isEmpty then help else help ++ "\n\n" ++ " ".intercalate notes
  let choices := if o.choices.isEmpty then ""
    else
      let width := (o.choices.map (·.1.length)).foldl max 0
      "\n\n" ++ indent ++ "Possible values:" ++
        String.join (o.choices.map fun (n, h) => "\n" ++ indent ++ "- " ++ n ++ ": " ++
          spaces (width - n.length) ++ h)
  "  " ++ o.spec ++ "\n" ++ indent ++ indentRest body indent ++ choices

/-- An option in the short form, its help starting at column `width + 4`. -/
def OptSpec.shortEntry (o : OptSpec) (width : Nat) : String :=
  let help := " ".intercalate ((if o.help.isEmpty then [] else [o.help]) ++ o.notes false)
  "  " ++ padTo o.spec width ++ "  " ++ help

/-- A titled section of lines, if it has any. -/
def titled (title : String) (lines : List String) (sep : String) : List String :=
  if lines.isEmpty then [] else [title ++ ":\n" ++ sep.intercalate lines]

/-- The help of a command, in the long form when `long` is set and the command has one. -/
def CommandSpec.render (c : CommandSpec) (long : Bool) : String :=
  let long := long && c.options.any (·.hasLongHelp)
  let nameWidth := (c.subcommands.map (·.1.length)).foldl max 0
  let commands := c.subcommands.map fun (n, h) => "  " ++ padTo n nameWidth ++ "  " ++ h
  let posWidth := (c.positionals.map (·.1.length)).foldl max 0
  let positionals := c.positionals.map fun (n, h) =>
    if long then "  " ++ n ++ "\n" ++ spaces 10 ++ h else "  " ++ padTo n posWidth ++ "  " ++ h
  let optWidth := (c.options.map (·.spec.length)).foldl max 0
  let options := c.options.map fun o => if long then o.longEntry else o.shortEntry optWidth
  let sep := if long then "\n\n" else "\n"
  let sections := titled "Commands" commands "\n" ++ titled "Arguments" positionals sep ++
    titled "Options" options sep
  c.about ++ "\n\nUsage: " ++ c.usage ++ "\n\n" ++ "\n\n".intercalate sections ++ "\n"

end ReflectCheck.Command
