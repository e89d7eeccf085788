import ReflectCheck.Command.Help
import ReflectCheck.Command.Suggest
import ReflectCheck.Config

/-!
# Reading the command line

The arguments are read from left to right. Before the subcommand, only `--config`,
`--help` and `--version` are known; the first word that names a subcommand starts it,
and the rest of the line belongs to the subcommand. Options take their value from the
same argument (`--jobs=2`, `-j2`, `-j=2`) or from the next one, unless that one looks like
an option itself or is `--`; a word that names a subcommand is a value then too (`-c run`).
`--` makes every later argument a path.

An argument is read first and taken in later: an option when its value has come and
the next option or path is read (or the line ends), paths that follow one another all
together when something else is read or the line ends. Taking in is where a value is checked, where an option given twice is refused,
and where an option left without a value is refused. So the mistakes are found in that
order: `--jobs abc --bogus` is refused for `--bogus`, which is read before `abc` is
taken in, while `--jobs abc --format json` is refused for `abc`. The arguments before
the subcommand are taken in only after the subcommand's arguments were read.

Help and version are shown as soon as they are read. A mistake ends the reading with a
usage error: an unknown argument (with a similar one suggested when there is one, or
how to pass it as a path), an unknown subcommand, an option given twice, a value that
is not one of the possible values or not a number, or an option left without a value.
With no arguments at all, the help is shown as an error.

Every usage error ends with `For more information, try '--help'.`; most also show the
usage line of the command being read. Two errors show what was given instead of
`[OPTIONS]`: an unknown option, which counts the similar option it suggests as given,
and a value attached to an option that takes none. The line then lists the options
given, the paths as `<PATHS>...` when given and `[PATHS]...` otherwise, and `<COMMAND>`
at the top; after a value attached to an option that takes none, a command's own
arguments, once one of them is given, are shown together as one alternative
`<PATHS|--format <FORMAT>|...>`.

A mistyped option is compared with the options of its command, in the order they were
added to it (`CommandSpec.longNames`); when none is similar enough, an option before
the subcommand is compared with the options of the subcommands named later on the line.
-/

namespace ReflectCheck.Command

/-- What `run` is asked to do. -/
structure RunArgs where
  /-- The fixture files or directories given. -/
  paths : List String
  /-- The report format, overriding the configuration. -/
  format : Option OutputFormat
  /-- The number of jobs, overriding the configuration. -/
  jobs : Option Nat
  /-- Whether panics are to be raised rather than captured. -/
  noCatchPanics : Bool
  deriving DecidableEq, Inhabited

/-- A subcommand with its arguments. -/
inductive Action where
  /-- Load and evaluate fixtures. -/
  | run (args : RunArgs)
  /-- List the fixture files found under paths. -/
  | list (paths : List String)
  deriving DecidableEq, Inhabited

/-- A well-formed command line: the configuration file and the subcommand. -/
structure Invocation where
  /-- The path of the configuration file. -/
  config : String
  /-- The subcommand. -/
  action : Action
  deriving DecidableEq, Inhabited

/-- What the command line asks for. -/
inductive Request where
  /-- Run a subcommand. -/
  | invoke (inv : Invocation)
  /-- Show help or the version on standard output, and succeed. -/
  | show (text : String)
  /-- Show a usage error (or help) on standard error, and fail with status 2. -/
  | reject (text : String)
  deriving DecidableEq, Inhabited

/-- A usage error: the message, tips, the usage line if shown, and the pointer to help
    when the command has a help option. -/
def usageErrorWith (message : String) (tips : List String) (usage : Option String)
    (helpHint : Bool) : String :=
  "error: " ++ message ++
    (if tips.isEmpty then "" else "\n\n" ++ "\n".intercalate (tips.map ("  tip: " ++ ·))) ++
    (match usage with
      | some u => "\n\nUsage: " ++ u
      | none => "") ++
    (if helpHint then "\n\nFor more information, try '--help'.\n" else "\n")

/-- A usage error of a command that has a help option. -/
def usageError (message : String) (tips : List String) (usage : Option String) : String :=
  usageErrorWith message tips usage true

/-- A list of possible values, as usage errors show it. -/
def possibleValues (choices : List String) : String :=
  if choices.isEmpty then "" else "\n  [possible values: " ++ ", ".intercalate choices ++ "]"

/-- The error for an argument shown as `shown` left without a value. -/
def emptyValueError (shown : String) (choices : List String) : String :=
  usageError ("a value is required for '" ++ shown ++ "' but none was supplied" ++
    possibleValues choices) [] none

/-- The error for an option left without a value. -/
def OptSpec.emptyError (o : OptSpec) : String := emptyValueError o.display (o.choices.map (·.1))

/-- The error for an option given twice. -/
def repeatedError (o : OptSpec) (usage : String) : String :=
  usageError ("the argument '" ++ o.display ++ "' cannot be used multiple times") [] (some usage)

/-- The error for an argument nobody expects: with a similar option suggested, or else,
    when the command takes paths, how to pass it as one. -/
def unknownArgError (arg : String) (suggestion : Option String) (takesPaths : Bool)
    (usage : String) : String :=
  let tips := match suggestion with
    | some s => [s]
    | none => if takesPaths then ["to pass '" ++ arg ++ "' as a value, use '-- " ++ arg ++ "'"] else []
  usageError ("unexpected argument '" ++ arg ++ "' found") tips (some usage)

/-- The error for a word that is no subcommand, with similar subcommands suggested. -/
def unknownSubcommandError (word : String) (known : List String) (usage : String) : String :=
  let tips := match similar word known with
    | [] => []
    | [s] => ["a similar subcommand exists: '" ++ s ++ "'"]
    | ss => ["some similar subcommands exist: " ++ ", ".intercalate (ss.map fun s => "'" ++ s ++ "'")]
  usageError ("unrecognized subcommand '" ++ word ++ "'") tips (some usage)

/-- A text read as a non-negative 64-bit number: decimal digits, possibly after one `+`.
    The digits are read from the left, and the first problem met is the reason given:
    a character that is no digit, or a number grown too large. -/
def parseUsize (s : String) : Except String Nat :=
  let cs := s.toList
  let digits := match cs with
    | '+' :: rest => if rest.isEmpty then cs else rest
    | _ => cs
  if cs.isEmpty then .error "cannot parse integer from empty string"
  else
    digits.foldl (fun acc c => acc.bind fun v =>
      if !c.isDigit then .error "invalid digit found in string"
      else
        let v' := 10 * v + (c.toNat - 48)
        if v' ≥ Nat.pow 2 64 then .error "number too large to fit in target type" else .ok v') (.ok 0)

/-- The problem with a value for an option, if there is one: an empty path, a value that
    is not one of the possible ones (with the most similar suggested), or a number that
    cannot be read. -/
def valueError? (o : OptSpec) (v : String) : Option String :=
  if !o.choices.isEmpty then
    let names := o.choices.map (·.1)
    if v ∈ names then none
    else if v.isEmpty then some o.emptyError
    else
      let tips := match closest? v names with
        | some s => ["a similar value exists: '" ++ s ++ "'"]
        | none => []
      some (usageError ("invalid value '" ++ v ++ "' for '" ++ o.display ++ "'" ++
        possibleValues names) tips none)
  else if o.long = "jobs" then
    match parseUsize v with
    | .error reason =>
      some (usageError ("invalid value '" ++ v ++ "' for '" ++ o.display ++ "': " ++ reason) [] none)
    | .ok _ => none
  else if v.isEmpty then some o.emptyError
  else none

/-- How the paths of a command are shown in messages. -/
def pathsShown : String := "[PATHS]..."

/-- The name under which the paths count as taken in. -/
def pathsId : String := "paths"

/-- An argument read but not yet taken in. -/
inductive Pending where
  /-- An option, with its value once it came. -/
  | option (o : OptSpec) (value : Option String)
  /-- Paths read one after another, taken in together. -/
  | paths (values : List String)

/-- The state of reading a command's arguments. -/
structure Reading where
  /-- The long names of the options taken in (and `paths`), in the order they first were. -/
  used : List String
  /-- The values of the options taken in, by long name. -/
  values : List (String × String)
  /-- The paths taken in. -/
  paths : List String
  /-- The argument read but not yet taken in. -/
  pending : Option Pending
  /-- Whether the pending option still waits for its value. -/
  waiting : Bool
  /-- Whether `--` was read, making everything a path. -/
  trailing : Bool

namespace Reading

/-- Nothing read yet. -/
def start : Reading := ⟨[], [], [], none, false, false⟩

/-- Take in the pending argument, for a command with usage line `usage`: a path must not
    be empty; an option must have a value, must not have been given before, and its value
    must be acceptable. A failure gives the error and what is then taken in: an option
    given twice is dropped, an option with a wrong value is kept without it. -/
def settle (usage : String) (r : Reading) : Except (String × Reading) Reading :=
  let r0 := { r with pending := none, waiting := false }
  match r.pending with
  | none => .ok r0
  | some (.paths vs) =>
    let r1 := { r0 with used := if pathsId ∈ r0.used then r0.used else r0.used ++ [pathsId] }
    if vs.any String.isEmpty then .error (emptyValueError pathsShown [], r1)
    else .ok { r1 with paths := r1.paths ++ vs }
  | some (.option o none) => .error (o.emptyError, r0)
  | some (.option o (some v)) =>
    if o.long ∈ r0.used then
      let dropped := { r0 with used := r0.used.erase o.long, values := r0.values.filter (·.1 ≠ o.long) }
      .error (repeatedError o usage, dropped)
    else
      let r1 := { r0 with used := r0.used ++ [o.long] }
      match valueError? o v with
      | some e => .error (e, r1)
      | none => .ok { r1 with values := r1.values ++ [(o.long, v)] }

/-- Take in the pending argument, whatever comes of it. -/
def settleAnyway (usage : String) (r : Reading) : Reading :=
  match r.settle usage with
  | .ok r' => r'
  | .error (_, r') => r'

/-- The value of an option taken in, by long name. -/
def value? (r : Reading) (long : String) : Option String :=
  (r.values.find? (·.1 = long)).map (·.2)

end Reading

/-- How reading a command's arguments stops. -/
inductive Stop where
  /-- Help or the version is to be shown. -/
  | show (text : String)
  /-- A usage error. -/
  | fail (text : String)
  /-- All arguments were read and taken in. -/
  | done (r : Reading)
  /-- A subcommand starts, with the arguments that follow it; what was read before is
      not taken in yet. -/
  | enter (r : Reading) (word : String) (rest : List String)

/-- The outcome of reading one argument: go on, or stop. -/
abbrev Next := Except Stop Reading

/-- Go on after taking in the pending argument, or stop with its error. -/
def settled (spec : CommandSpec) (r : Reading) : Next :=
  match r.settle spec.usage with
  | .ok r' => .ok r'
  | .error (e, _) => .error (.fail e)

/-- An entry of a usage line built from what was given. -/
inductive UsageItem where
  /-- An argument, by long name (`paths` for the paths). -/
  | arg (id : String)
  /-- The command's own arguments together. -/
  | own
  deriving DecidableEq, Inhabited

/-- The arguments taken in as usage entries, the command's own arguments together
    right after the first of them. -/
def withOwn (spec : CommandSpec) (used : List String) : List UsageItem :=
  match used.findIdx? (· ∈ spec.own) with
  | some i => (used.take (i + 1)).map .arg ++ UsageItem.own :: (used.drop (i + 1)).map .arg
  | none => used.map .arg

/-- How an argument is shown inside `<A|B|…>`: the paths by their name, an option as
    in messages. -/
def ownShown (spec : CommandSpec) (id : String) : String :=
  if id = pathsId then "PATHS"
  else match spec.options.find? (·.long = id) with
    | some o => o.display
    | none => id

/-- Drop repeated entries, keeping the first of each. -/
def firstOccurrences (xs : List String) : List String :=
  xs.foldl (fun acc x => if x ∈ acc then acc else acc ++ [x]) []

/-- The usage line that shows what was given in place of `[OPTIONS]`: the options given,
    then the command's own arguments together if they are given so (their members are
    then not shown apart), then the paths, as `<PATHS>...` when given and `[PATHS]...`
    otherwise, then `<COMMAND>` for a command with subcommands. -/
def usedUsage (spec : CommandSpec) (name : String) (items : List UsageItem) : String :=
  let together := UsageItem.own ∈ items
  let apart (id : String) : Bool := !(together && id ∈ spec.own)
  let opts := firstOccurrences (items.filterMap fun item => match item with
    | .arg id => if apart id then (spec.options.find? (·.long = id)).map (·.display) else none
    | .own => none)
  let group := if together then ["<" ++ "|".intercalate (spec.own.map (ownShown spec)) ++ ">"] else []
  let paths :=
    if spec.positionals.isEmpty || !apart pathsId then []
    else if UsageItem.arg pathsId ∈ items then ["<PATHS>..."] else [pathsShown]
  let command := if spec.subcommands.isEmpty then [] else ["<COMMAND>"]
  " ".intercalate (name :: opts ++ group ++ paths ++ command)

/-- The usage line of an error, given what was taken in. -/
def usageFor (spec : CommandSpec) (name : String) (items : List UsageItem) : String :=
  if items.isEmpty then spec.usage else usedUsage spec name items

/-- The subcommands that may follow the program's name. -/
def subcommandNames : List String := ["run", "list", "help"]

/-- The subcommand named by a word, with its help. -/
def subcommandSpec? (word : String) : Option CommandSpec :=
  if word = "run" then some runSpec else if word = "list" then some listSpec else none

/-- The tip for an unknown option before the subcommand that is an option of a
    subcommand named later: the one named first wins. -/
def subcommandTip (name : String) (rest : List String) : Option String :=
  let candidates := [("run", runSpec), ("list", listSpec)].filterMap fun (n, s) =>
    match closest? name s.longNames, rest.idxOf? n with
    | some long, some pos => some (pos, "'" ++ n ++ " --" ++ long ++ "' exists")
    | _, _ => none
  (candidates.foldl (fun best c => match best with
    | some b => if c.1 < b.1 then some c else some b
    | none => some c) none).map (·.2)

/-- Read a long option `--name` or `--name=value` of a command called `cmdName` in usage
    lines; `rest` are the arguments after it. -/
def readLong (spec : CommandSpec) (cmdName : String) (r : Reading) (body : String)
    (rest : List String) : Next :=
  let (name, attached) : String × Option String := match body.splitOn "=" with
    | [n] => (n, none)
    | n :: more => (n, some ("=".intercalate more))
    | [] => (body, none)
  match spec.options.find? (·.long = name) with
  | some o =>
    match o.value, attached with
    | some _, some v => do
      let r ← settled spec r
      settled spec { r with pending := some (.option o (some v)) }
    | some _, none => do
      let r ← settled spec r
      pure { r with pending := some (.option o none), waiting := true }
    | none, some v =>
      .error (.fail (usageError ("unexpected value '" ++ v ++ "' for '" ++ o.display ++
        "' found; no more were expected") []
          (some (usedUsage spec cmdName (withOwn spec r.used ++ [.arg o.long])))))
    | none, none => do
      let r ← settled spec r
      if name = "help" then .error (.show (spec.render true))
      else if name = "version" then .error (.show versionText)
      else if name ∈ r.used then .error (.fail (repeatedError o spec.usage))
      else pure { r with used := r.used ++ [name] }
  | none =>
    let r := r.settleAnyway spec.usage
    let (suggestion, used) : Option String × List String :=
      match closest? name spec.longNames with
      | some s => (some ("a similar argument exists: '--" ++ s ++ "'"),
          if s ∈ r.used then r.used else r.used ++ [s])
      | none => (if spec.subcommands.isEmpty then none else subcommandTip name rest, r.used)
    let takesPaths := suggestion.isNone && !spec.positionals.isEmpty
    .error (.fail (unknownArgError ("--" ++ name) suggestion takesPaths
      (usageFor spec cmdName (used.map .arg))))

/-- Read a cluster of short options `-abc` of a command. -/
def readShort (spec : CommandSpec) (r : Reading) (cluster : List Char) : Next :=
  let rec go (r : Reading) : List Char → Next
    | [] => .ok r
    | c :: more =>
      match spec.options.find? (·.short = some c) with
      | some o =>
        match o.value with
        | some _ =>
          let attached : Option String := match more with
            | '=' :: v => some (String.ofList v)
            | [] => none
            | v => some (String.ofList v)
          match attached with
          | some v => do
            let r ← settled spec r
            settled spec { r with pending := some (.option o (some v)) }
          | none => do
            let r ← settled spec r
            pure { r with pending := some (.option o none), waiting := true }
        | none =>
          match settled spec r with
          | .error s => .error s
          | .ok r =>
            if o.long = "help" then .error (.show (spec.render false))
            else if o.long = "version" then .error (.show versionText)
            else if o.long ∈ r.used then .error (.fail (repeatedError o spec.usage))
            else go { r with used := r.used ++ [o.long] } more
      | none =>
        .error (.fail (unknownArgError ("-" ++ String.singleton c) none
          (!r.trailing && !spec.positionals.isEmpty) spec.usage))
  go r cluster

/-- Read a word that is neither an option nor a value: a path of a command that takes
    paths, or else a mistaken subcommand. -/
def readWord (spec : CommandSpec) (r : Reading) (a : String) : Next :=
  if !spec.positionals.isEmpty then
    match r.pending with
    | some (.paths vs) => .ok { r with pending := some (.paths (vs ++ [a])) }
    | _ => do
      let r ← settled spec r
      pure { r with pending := some (.paths [a]) }
  else if r.trailing && a ∈ subcommandNames then
    .error (.fail (unknownArgError a (some ("subcommand '" ++ a ++
      "' exists; to use it, remove the '--' before it")) false spec.usage))
  else .error (.fail (unknownSubcommandError a subcommandNames spec.usage))

/-- Read one argument of a command; `rest` are the arguments after it. -/
def readArg (spec : CommandSpec) (cmdName : String) (r : Reading) (a : String)
    (rest : List String) : Next :=
  if r.trailing then readWord spec r a
  else if a = "--" then .ok { r with trailing := true }
  else if a.startsWith "--" then readLong spec cmdName r (a.drop 2).toString rest
  else if a.startsWith "-" && a ≠ "-" then readShort spec r (a.toList.drop 1)
  else if r.waiting then
    match r.pending with
    | some (.option o _) => .ok { r with pending := some (.option o (some a)), waiting := false }
    | _ => readWord spec r a
  else readWord spec r a

/-- Read the arguments of a command called `cmdName` in usage lines, up to a subcommand
    if it has any. -/
def readCommand (spec : CommandSpec) (cmdName : String) (args : List String) : Stop :=
  let rec go (r : Reading) : List String → Stop
    | [] =>
      match r.settle spec.usage with
      | .ok r => .done r
      | .error (e, _) => .fail e
    | a :: rest =>
      if !spec.subcommands.isEmpty && !r.trailing && !r.waiting && a ∈ subcommandNames then
        .enter r a rest
      else
        match readArg spec cmdName r a rest with
        | .ok r' => go r' rest
        | .error s => s
  go Reading.start args

/-- The help of a subcommand named by `help`, or the error for an unknown one. -/
def helpFor (names : List String) : Request :=
  match names with
  | [] => .show (topSpec.render true)
  | name :: rest =>
    match subcommandSpec? name with
    | some spec =>
      match rest with
      | [] => .show (spec.render true)
      | word :: _ => .reject (usageError ("unrecognized subcommand '" ++ word ++ "'") [] (some spec.usage))
    | none =>
      if name = "help" then
        match rest with
        | [] => .show (helpSpec.render true)
        | word :: _ =>
          .reject (usageErrorWith ("unrecognized subcommand '" ++ word ++ "'") [] (some helpSpec.usage) false)
      else .reject (usageError ("unrecognized subcommand '" ++ name ++ "'") [] (some topSpec.usage))

/-- Turn what a subcommand's arguments gave into its action. -/
def actionOf (word : String) (r : Reading) : Action :=
  if word = "run" then
    .run ⟨r.paths, (r.value? "format").bind OutputFormat.ofName?,
      (r.value? "jobs").bind fun v => (parseUsize v).toOption, "no-catch-panics" ∈ r.used⟩
  else .list r.paths

/-- What a command line asks for. -/
def parseArgs (args : List String) : Request :=
  match readCommand topSpec programName args with
  | .show text => .show text
  | .fail text => .reject text
  | .done r =>
    if r.used.isEmpty then .reject (topSpec.render false)
    else .reject (usageError ("'" ++ programName ++ "' requires a subcommand but one was not provided" ++
      "\n  [subcommands: " ++ ", ".intercalate subcommandNames ++ "]") [] (some topSpec.usage))
  | .enter top word rest =>
    match subcommandSpec? word with
    | none => helpFor rest
    | some spec =>
      match readCommand spec (programName ++ " " ++ word) rest with
      | .show text => .show text
      | .fail text => .reject text
      | .enter _ _ _ => .reject ""
      | .done sub =>
        match top.settle topSpec.usage with
        | .error (e, _) => .reject e
        | .ok top =>
          let config := (sub.value? "config").getD ((top.value? "config").getD "exemplar.toml")
          .invoke ⟨config, actionOf word sub⟩

end ReflectCheck.Command
