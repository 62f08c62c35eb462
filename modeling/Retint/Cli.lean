import Retint.Compiler.Script
import Retint.Config.File
import Retint.Generator
import Retint.Surroundings

/-!
# The command line

The command takes a configuration file, generates the theme, and prints it if the configuration
names no output file. It goes in two parts: what comes before the compiler is known, and the
generation with that compiler. Until there is a log file, failures are told on the error output;
from then on they are logged.

## Main definitions

* `Cli.Invocation` — what the command is called with
* `Cli.prepare` — reading and checking the configuration
* `Cli.perform` — generating the theme
* `Cli.run` — both, in given surroundings
-/

namespace Retint.Cli

/-- What the command is called with. -/
structure Invocation where
  /-- The name of the command. -/
  name : Text
  arguments : List Text
  /-- Where programs keep their data, if that is known. -/
  dataDir : Option Path
  /-- How detailed the log is to be, if that is said. -/
  logLevel : Option Text
deriving DecidableEq, Repr

/-- What is to be done once the configuration has been checked. -/
structure Job where
  compiler : ScriptCompiler
  options : Options

/-! ### Exit statuses -/

def success : Nat := 0

def failure : Nat := 1

/-! ### Messages -/

/-- How the command is to be called. -/
def usage (name : Text) : Text :=
  "Usage: ".toList ++ name ++ " <config_file>\n".toList ++
    "  <config_file>: YAML or JSON theme configuration\n".toList ++
    "Example: ".toList ++ name ++ " theme.yaml\n".toList ++
    "Note: without output_file_path the stylesheet is printed to stdout.\n".toList

/-- A message on a line of its own. -/
def asLine (lead : String) (message : Text) : Text := lead.toList ++ message ++ ['\n']

/-! ### The log -/

/-- The names of the levels, each with how many kinds of messages it lets through. -/
def details : List (Text × Nat) :=
  ["off", "error", "warn", "info", "debug", "trace"].zipIdx.map fun (name, n) => (name.toList, n)

/-- How detailed the log is: as the level says, whose name can be in any case, and informational
if it says nothing or nothing known. -/
def detail (level : Option Text) : Nat :=
  ((level.bind fun name => details.lookup (name.map Char.toLower))).getD Level.info.rank

/-- The log file if the configuration names none. -/
def defaultLog (dataDir : Path) : Path :=
  (dataDir.join (.ofString "LessThemeGen")).join (.ofString "less_theme_gen.log")

/-- Opens the log file; if it cannot be opened, the answer says why. -/
def openLog (i : Invocation) (file : Option Path) : Action (Except Text Unit) :=
  match file.or (i.dataDir.map defaultLog) with
  | none => pure (.error "Could not determine local data directory".toList)
  | some path => do
    match ← Action.request (.openLog path (detail i.logLevel)) with
    | .ok () => pure (.ok ())
    | .error f => pure (.error f.message)

/-! ### The two parts -/

/-- The configuration in a file. -/
def readConfig (path : Path) : Action (Except Failure Config) := do
  match ← Action.request (.readText path) with
  | .error f => pure (.error (.file (Config.readingFile path) f))
  | .ok t => pure (Config.ofFileText path t)

/-- Checks a configuration and says what there is to do. -/
def check (config : Config) : Action (Option Job) := do
  match config.validate with
  | .error f =>
    Action.log .error f.message
    pure none
  | .ok options =>
    if options.cssModules then
      Action.log .debug "CSS modules output requested".toList
    pure (some ⟨config.compiler, options⟩)

/-- Reads and checks the configuration, and opens the log file in between. -/
def prepare (i : Invocation) : Action (Option Job) :=
  match i.arguments with
  | [] => do
    Action.request (.printError (usage i.name))
    pure none
  | path :: _ => do
    match ← readConfig ⟨path⟩ with
    | .error f =>
      Action.request (.printError (asLine "Failed to load configuration: " f.message))
      pure none
    | .ok config =>
      match ← openLog i config.logFile with
      | .error report =>
        Action.request (.printError (asLine "Failed to initialize logger: " report))
        pure none
      | .ok () =>
        Action.log .info "LESS theme generator starting".toList
        Action.log .info
          ("Command line arguments: ".toList ++ quotedList (i.name :: i.arguments))
        check config

/-- Generates the theme. Its text is printed if there is no output file, and the name of the file
if there is one. -/
def perform (importLimit : Nat) (options : Options) : Action Nat := do
  match ← (Generator.generate importLimit options).run with
  | .ok theme =>
    match options.outputFile with
    | some _ =>
      Action.request (.print (asLine "" (Generator.successMessage options.outputFile)))
    | none => Action.request (.print theme)
    pure success
  | .error f =>
    Action.log .error ("Theme generation failed: ".toList ++ f.message)
    pure failure

/-- Runs the command in given surroundings; its exit status comes first. -/
def run (compilerOf : ScriptCompiler → Compiler) (i : Invocation) (s : Surroundings) :
    Nat × Surroundings :=
  match Action.run (compilerOf {}) (prepare i) s with
  | (none, s) => (failure, s)
  | (some job, s) =>
    Action.run (compilerOf job.compiler) (perform (Bundle.treeLimit s.files) job.options) s

end Retint.Cli
