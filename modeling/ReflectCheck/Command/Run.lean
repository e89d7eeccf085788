import ReflectCheck.Command.Parse
import ReflectCheck.Suite
import ReflectCheck.Fixture.Discovery

/-!
# Running the command line

A command line is answered in three steps, each of which may end it:

* the arguments are read (`parseArgs`): help and the version go to standard output with
  status 0, usage errors to standard error with status 2;
* the configuration file is loaded: a path that names nothing (or the empty path) gives
  the defaults; a file that cannot be read, is no configuration or breaks a rule ends
  the run with `error: Failed to load config from PATH: ` and the error's chain, status 1;
* the subcommand runs over the fixture files found under the paths given, or under the
  configured fixtures directory when none are given.

`run` lets its options override the configuration and checks the result again (a bad
override ends with `error: Invalid command-line options: ` and the chain, status 1), then
evaluates every fixture file and prints the report in the configured format; it fails
with status 1 unless every file loaded and every example passed. `list` prints one line
per fixture file, its name and number of examples or its load error, and fails with
status 1 if any file could not be loaded.

An error's chain is its message followed by the messages of its causes, each after
`: `, as fatal errors are shown.
-/

namespace ReflectCheck.Command

open Files Fixture

/-- How a run of the program ends: its exit status and what it printed. -/
structure Exit where
  /-- The exit status. -/
  status : Nat
  /-- What went to standard output. -/
  stdout : String
  /-- What went to standard error. -/
  stderr : String
  deriving DecidableEq, Inhabited

/-- A fatal error: `error: ` and the message, on standard error, status 1. -/
def Exit.fatal (message : String) : Exit := ⟨1, "", "error: " ++ message ++ "\n"⟩

/-- The configuration at a path of a file tree: the defaults when the path names nothing. -/
def loadConfig (t : Tree) (path : String) : Except ConfigError HarnessConfig :=
  HarnessConfig.load (if path.isEmpty || !t.present path then none else some (t.read path))

/-- The configuration with the options of `run` put over it. -/
def RunArgs.override (a : RunArgs) (c : HarnessConfig) : HarnessConfig :=
  { c with format := a.format.getD c.format, jobs := a.jobs.getD c.jobs,
           catchPanics := !a.noCatchPanics && c.catchPanics }

/-- The roots to search for fixture files: the paths given, or else the configured
    fixtures directory. -/
def rootsOf (paths : List String) (c : HarnessConfig) : List String :=
  if paths.isEmpty then [c.fixturesDir] else paths

/-- The fixture files under roots given on the command line, sorted without duplicates.
    The empty path names nothing. -/
def fixturesUnder (t : Tree) (roots : List String) : List String :=
  discoverAll false t (roots.filter (!·.isEmpty))

/-- The line of `list` for one fixture file. -/
def listLine (t : Tree) (path : String) : Bool × String :=
  let loaded : Except LoadError LoadedFixture := match t.read path with
    | .error reason => .error (LoadError.io path reason)
    | .ok content => LoadedFixture.fromToml content (some path)
  match loaded with
  | .ok f => (true, path ++ "\t" ++ f.name ++ "\t" ++ toString f.registry.size ++ " examples\n")
  | .error e => (false, path ++ "\tLOAD ERROR\t" ++ e.message ++ "\n")

/-- Run `run` with a loaded configuration. -/
def runFixtures (t : Tree) (a : RunArgs) (c : HarnessConfig) : Exit :=
  let c := a.override c
  match c.validate with
  | .error e => Exit.fatal ("Invalid command-line options: " ++ e.chain)
  | .ok () =>
    let report := runSuiteWith t (fixturesUnder t (rootsOf a.paths c)) c.jobs fun _ => 0
    let out := match c.format with
      | .text => report.renderText
      | .json => report.renderJson ++ "\n"
    ⟨if report.passed then 0 else 1, out, ""⟩

/-- Run `list` with a loaded configuration. -/
def listFixtures (t : Tree) (paths : List String) (c : HarnessConfig) : Exit :=
  let lines := (fixturesUnder t (rootsOf paths c)).map (listLine t)
  ⟨if lines.all (·.1) then 0 else 1, String.join (lines.map (·.2)), ""⟩

/-- Run a well-formed command line over a file tree. -/
def execute (t : Tree) (inv : Invocation) : Exit :=
  match loadConfig t inv.config with
  | .error e => Exit.fatal ("Failed to load config from " ++ inv.config ++ ": " ++ e.chain)
  | .ok c =>
    match inv.action with
    | .run a => runFixtures t a c
    | .list paths => listFixtures t paths c

/-- Answer a command line over a file tree. -/
def respond (t : Tree) (args : List String) : Exit :=
  match parseArgs args with
  | .show text => ⟨0, text, ""⟩
  | .reject text => ⟨2, "", text⟩
  | .invoke inv => execute t inv

end ReflectCheck.Command
