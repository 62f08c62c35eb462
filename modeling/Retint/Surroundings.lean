import Retint.Action
import Retint.Cache
import Retint.Compiler.Basic

/-!
# Surroundings in memory

The surroundings that an action is run in: a file tree, the cache of the generator, a console with
a log file, and who is to take the next step when actions run together. All of it is data, so that
what an action does can be computed and reasoned about.

## Main definitions

* `Surroundings` — everything that an action can see or change
* `Surroundings.answer` — the reply to a request, and the surroundings after it
* `Action.run` — runs an action from start to end

## Main results

* `Action.run_bind` — running one action after another
-/

namespace Retint

/-- A compilation that was asked for. -/
structure Call where
  source : Text
  includes : List Path
deriving DecidableEq, Repr

/-- A log file that has been opened, and how detailed its messages are. -/
structure Logger where
  file : Path
  detail : Nat
deriving DecidableEq, Repr

/-- Everything that an action can see or change. -/
structure Surroundings where
  files : FileSystem
  cache : Cache := {}
  /-- The answers to the coming questions who takes the next step; after these it is the first. -/
  turns : List Bool := []
  /-- The compilations that have been asked for, in order. -/
  calls : List Call := []
  logger : Option Logger := none
  output : Text := []
  errors : Text := []

namespace Surroundings

/-- A log message as a line. -/
def logLine (level : Level) (message : Text) : Text :=
  '[' :: level.name ++ "] ".toList ++ message ++ ['\n']

/-- Logs a message: to the log file if there is one and it wants the level, and then also to the
error output if it is a warning or an error. -/
def log (s : Surroundings) (level : Level) (message : Text) : Surroundings :=
  match s.logger with
  | none => s
  | some logger =>
    if level.rank ≤ logger.detail then
      let line := logLine level message
      let old := (s.files.readText logger.file).toOption.getD []
      { s with
        files := (s.files.write logger.file (.text (old ++ line))).toOption.getD s.files
        errors := if level.rank ≤ Level.warn.rank then s.errors ++ line else s.errors }
    else s

/-- A change of the files as the reply to a request. -/
def change (s : Surroundings) (result : Except FileFault FileSystem) :
    Except FileFault Unit × Surroundings :=
  match result with
  | .ok files => (.ok (), { s with files := files })
  | .error f => (.error f, s)

/-- Opens a log file: creates its directory, empties it, and logs to it from then on. -/
def openLog (s : Surroundings) (p : Path) (detail : Nat) : Except FileFault Unit × Surroundings :=
  let made := match p.parent? with
    | some dir => s.files.makeDirs dir
    | none => (.ok (), s.files)
  match made with
  | (.error f, files) => (.error f, { s with files := files })
  | (.ok (), files) =>
    match files.write p (.text []) with
    | .ok files => (.ok (), { s with files := files, logger := some ⟨p, detail⟩ })
    | .error f => (.error f, { s with files := files })

/-- The reply to a request, and the surroundings after it. -/
def answer (compiler : Compiler) (s : Surroundings) : (r : Request) → r.Reply × Surroundings
  | .readText p => (s.files.readText p, s)
  | .canonical p => (s.files.canonical p, s)
  | .list p => (s.files.list p, s)
  | .isFile p => (s.files.isFile p, s)
  | .walk p => (s.files.walk p, s)
  | .createDirs p =>
    let (result, files) := s.files.makeDirs p
    (result, { s with files := files })
  | .writeText p t => s.change (s.files.write p (.text t))
  | .compile source includes =>
    let s := match compiler.announce includes with
      | some message => s.log .debug message
      | none => s
    let (result, files) := compiler.compile s.files source includes
    (result, { s with files := files, calls := s.calls ++ [⟨source, includes⟩] })
  | .remembered digest => (s.cache.get? digest, s)
  | .remember digest theme => ((), { s with cache := s.cache.store digest theme })
  | .openLog p detail => s.openLog p detail
  | .log level message => ((), s.log level message)
  | .print t => ((), { s with output := s.output ++ t })
  | .printError t => ((), { s with errors := s.errors ++ t })
  | .turn => (s.turns.headD true, { s with turns := s.turns.tail })

end Surroundings

namespace Action

variable {α β : Type}

/-- Runs an action from start to end. -/
def run (compiler : Compiler) : Action α → Surroundings → α × Surroundings
  | done a, s => (a, s)
  | ask r next, s =>
    let (reply, s) := s.answer compiler r
    run compiler (next reply) s

theorem run_bind (compiler : Compiler) (p : Action α) (f : α → Action β) (s : Surroundings) :
    run compiler (bind p f) s =
      run compiler (f (run compiler p s).1) (run compiler p s).2 := by
  induction p generalizing s with
  | done => rfl
  | ask r next ih => simp [bind, run, ih]

end Action

end Retint
