import Retint.Cli
import Retint.Timestamp
import Std.Time.DateTime.Timestamp

/-!
# The program

The command line in the real world: every request is answered by the operating system. What is to
be asked for, and what is done with the answers, is up to `Cli`.

## Implementation notes

Of two actions that run together, the first one goes on until it is done. A compiler script runs
inside this program. A file that is there counts as one that can be started.
-/

namespace Retint.World

/-- Nested imports beyond this number are refused. -/
def importLimit : Nat := 1000000

/-- What is kept between two requests. -/
structure Session where
  compiler : ScriptCompiler
  /-- Where compiler scripts are started, and the variables that they find set. -/
  directory : Path
  environment : List (Text × Text)
  cache : IO.Ref Cache
  logger : IO.Ref (Option Logger)

/-- The path as the operating system takes it. -/
def spelled (p : Path) : String := String.ofList p.text

/-- The fault behind an error of the operating system. -/
def faultOf : IO.Error → FileFault
  | .noFileOrDirectory .. => .notFound
  | .alreadyExists .. => .exists
  | .inappropriateType _ code _ => if code = 21 then .isDirectory else .notDirectory
  | .resourceExhausted .. => .isDirectory
  | .invalidArgument _ code _ => if code = 36 then .nameTooLong else .tooManyLinks
  | _ => .denied

/-- Makes the errors of an access faults. -/
def attempt {α : Type} (access : IO α) : IO (Except FileFault α) := do
  try
    return .ok (← access)
  catch e =>
    return .error (faultOf e)

def readBytes (p : Path) : IO (Except FileFault (List UInt8)) :=
  attempt do return (← IO.FS.readBinFile (spelled p)).toList

def readText (p : Path) : IO (Except FileFault Text) := do
  match ← readBytes p with
  | .ok b =>
    match Text.ofUtf8? b with
    | some t => return .ok t
    | none => return .error .notText
  | .error f => return .error f

def write (p : Path) (t : Text) : IO Unit :=
  IO.FS.writeBinFile (spelled p) (ByteArray.mk (Text.utf8 t).toArray)

/-- What a name in a directory stands for, without the contents of files. -/
partial def entry (p : Path) : IO Files.Entry := do
  let real ← IO.FS.realPath (spelled p)
  match (← real.metadata).type with
  | .dir =>
    let entries ← (← real.readDir).toList.mapM fun e => do
      let name := e.fileName.toList
      match (← e.path.symlinkMetadata).type with
      | .dir => return (name, ← entry (p.join ⟨name⟩))
      | .file => return (name, Files.Entry.file (.text []) false)
      | _ => return (name, Files.Entry.link [])
    return .dir entries
  | _ => return .file (.text []) false

def isFile (p : Path) : IO Bool := do
  match ← attempt (IO.FS.realPath (spelled p)) with
  | .ok real => return (← real.metadata).type == .file
  | .error _ => return false

def createDirs (p : Path) : IO Unit :=
  if p.text.isEmpty then pure () else IO.FS.createDirAll (spelled p)

/-- Writes a message to the log file, and a warning or an error also to the error output. -/
def log (session : Session) (level : Level) (message : Text) : IO Unit := do
  match ← session.logger.get with
  | none => pure ()
  | some logger =>
    if level.rank ≤ logger.detail then
      let line := String.ofList (Surroundings.logLine level message)
      let now := (← Std.Time.Timestamp.now).toMillisecondsSinceUnixEpoch.val.toNat
      IO.FS.withFile (spelled logger.file) .append fun h =>
        h.putStr ("[" ++ String.ofList (Timestamp.text now) ++ "] " ++ line)
      if level.rank ≤ Level.warn.rank then
        (← IO.getStderr).putStr line

/-- What a path leads to. A file that is there counts as one that can be started. -/
def kind (p : Path) : IO (Except FileFault Shell.Kind) := do
  match ← attempt (IO.FS.realPath (spelled p)) with
  | .error f => return .error f
  | .ok real =>
    let data ← real.metadata
    match data.type with
    | .dir => return .ok .directory
    | _ => return .ok (.file data.byteSize.toNat true)

/-- What kind of entry a path names in its directory; a link is not followed. -/
def entryType (p : Path) : IO IO.FS.FileType := do
  let parent := (p.parent?).getD ⟨['/']⟩
  let dir ← IO.FS.realPath (if parent.text.isEmpty then "." else spelled parent)
  let name := String.ofList ((p.fileName?).getD ['.'])
  return (← (dir / name).symlinkMetadata).type

/-- Removes a file, or a directory with all that is in it. -/
def remove (p : Path) : IO Unit := do
  match ← entryType p with
  | .dir => IO.FS.removeDirAll (spelled p)
  | _ => IO.FS.removeFile (spelled p)

/-- The names in a directory. -/
def names (p : Path) : IO (List Text) := do
  return (← (← IO.FS.realPath (spelled p)).readDir).toList.map fun e => e.fileName.toList

def canonical (p : Path) : IO Path := do
  return ⟨(← IO.FS.realPath (spelled p)).toString.toList⟩

/-- The permissions of a file, with or without that to start it. -/
def setExecutable (p : Path) (b : Bool) : IO Unit :=
  let rights : IO.AccessRight := { read := true, write := true, execution := b }
  IO.setAccessRights (spelled p) { user := rights, group := rights, other := rights }

/-- What a compiler script sees. -/
def host : Shell.Host IO where
  read p := do return (← readBytes p).map Shell.Raw.ofBytes
  write p t := attempt <|
    IO.FS.writeBinFile (spelled p) (ByteArray.mk (Shell.Raw.bytes t).toArray)
  kind := kind
  isLink p := do
    match ← attempt (entryType p) with
    | .ok type => return type == .symlink
    | .error _ => return false
  canonical p := attempt (canonical p)
  list p := attempt (names p)
  createDir p := attempt (IO.FS.createDir (spelled p))
  remove p := attempt (remove p)
  setExecutable p b := attempt (setExecutable p b)

/-- The reply to a request. -/
def answer (session : Session) : (r : Request) → IO r.Reply
  | .readText p => readText p
  | .canonical p => attempt (canonical p)
  | .list p => attempt (names p)
  | .isFile p => isFile p
  | .walk p => attempt do return (← entry p).files p
  | .createDirs p => attempt (createDirs p)
  | .writeText p t => attempt (write p t)
  | .compile source includes => do
    match session.compiler.compiler.announce includes with
    | some message => log session .debug message
    | none => pure ()
    ScriptCompiler.compile host session.directory session.environment session.compiler source
      includes
  | .remembered digest => return (← session.cache.get).get? digest
  | .remember digest theme => session.cache.modify (·.store digest theme)
  | .openLog p detail => attempt do
    match p.parent? with
    | some dir => createDirs dir
    | none => pure ()
    write p []
    session.logger.set (some ⟨p, detail⟩)
  | .log level message => log session level message
  | .print t => do (← IO.getStdout).putStr (String.ofList t)
  | .printError t => do (← IO.getStderr).putStr (String.ofList t)
  | .turn => return true

/-- Carries out an action. -/
def perform {α : Type} (session : Session) : Action α → IO α
  | .done a => return a
  | .ask r next => do perform session (next (← answer session r))

/-- Where programs keep their data. -/
def dataDir : IO (Option Path) := do
  match ← IO.getEnv "XDG_DATA_HOME" with
  | some dir =>
    if dir.startsWith "/" then return some (.ofString dir)
  | none => pure ()
  return (← IO.getEnv "HOME").map fun home => (Path.ofString home).join (.ofString ".local/share")

end Retint.World

open Retint Retint.World in
/-- Generates a theme from the configuration file that is the first argument. -/
def main (arguments : List String) : IO UInt32 := do
  let invocation : Cli.Invocation := {
    name := (← IO.appPath).toString.toList
    arguments := arguments.map String.toList
    dataDir := ← dataDir
    logLevel := (← IO.getEnv "LESS_THEME_GEN_LOG").map String.toList }
  let environment ← ["PATH", "HOME", "TMPDIR"].filterMapM fun name => do
    return (← IO.getEnv name).map fun value =>
      (Shell.Raw.ofText name.toList, Shell.Raw.ofText value.toList)
  let session : Session := {
    compiler := {}
    directory := ← canonical ⟨['.']⟩
    environment := environment
    cache := ← IO.mkRef {}
    logger := ← IO.mkRef none }
  match ← perform session (Cli.prepare invocation) with
  | none => return Cli.failure.toUInt32
  | some job =>
    let session := { session with compiler := job.compiler }
    return (← perform session (Cli.perform importLimit job.options)).toUInt32
