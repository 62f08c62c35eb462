import Retint.Compiler.Basic
import Retint.Shell.Run

/-!
# Compilers that are scripts

A compiler can be a program of its own: a shell script that is started for every compilation, reads
the source from its input and writes the stylesheet to its output. Its arguments say where imports
are looked for and what stands before the name of a package in an import.

## Main definitions

* `ScriptCompiler` — a script, and the mark of package imports
* `ScriptCompiler.arguments` — the arguments for a compilation
* `ScriptCompiler.compile` — a compilation
* `ScriptCompiler.treeHost`, `ScriptCompiler.compiler` — the script as a compiler on a file tree
-/

namespace Retint

/-- A compiler that is a script, and what stands before the name of a package in an import. -/
structure ScriptCompiler where
  executable : Path := .ofString "lessc"
  importPrefix : Text := ['~']
deriving DecidableEq, Repr

namespace ScriptCompiler

/-! ### Arguments -/

/-- What stands between two include paths. -/
def separator : Char := ':'

/-- The include paths in one argument, if there are any; no path can hold the separator. -/
def includeArgument (includes : List Path) : Except Failure (List Text) :=
  if includes.any fun p => separator ∈ p.text then
    .error (.compile "Invalid include path: path segment contains separator \x60:\x60".toList)
  else if includes.isEmpty then .ok []
  else
    .ok ["--include-path=".toList ++ Text.joinWith [separator] (includes.map Path.text)]

/-- The arguments for a compilation whose source comes from the input. -/
def arguments (p : ScriptCompiler) (includes : List Path) : Except Failure (List Text) :=
  (includeArgument includes).map fun paths =>
    paths ++ ["--js".toList, "--npm-import=prefix=".toList ++ p.importPrefix, ['-']]

/-- What is logged before a compilation. -/
def announcement (p : ScriptCompiler) (arguments : List Text) : Text :=
  "Running ".toList ++ p.executable.text ++ ' ' :: quotedList arguments

/-! ### Compiling -/

variable {m : Type → Type} [Monad m]

/-- What is said when the program cannot be started. -/
def startFailure (p : ScriptCompiler) (reason : Text) : Failure :=
  .compile ("Failed to start ".toList ++ p.executable.text ++ ": ".toList ++ reason)

/-- How much of its input a program can leave unread without anyone noticing. -/
def pipeCapacity : Nat := 65536

/-- What a program's run comes to. Its errors count only if it fails. -/
def result (o : Shell.Outcome) : Except Failure Text :=
  if o.status = 0 then
    if pipeCapacity < o.unread.length then
      .error (.compile "Failed to write compiler input: Broken pipe (os error 32)".toList)
    else .ok (Shell.Raw.text o.output)
  else .error (.compile (Text.trim (Shell.Raw.text o.errors)))

/-- Compiles a source. The script is started in a directory and with variables. -/
def compile (host : Shell.Host m) (directory : Path) (bindings : List (Text × Text))
    (p : ScriptCompiler) (source : Text) (includes : List Path) : m (Except Failure Text) := do
  match p.arguments includes with
  | .error f => pure (.error f)
  | .ok arguments =>
    if (p.executable.text :: arguments).any (Char.ofNat 0 ∈ ·) then
      pure (.error (p.startFailure "nul byte found in provided data".toList))
    else
      let raw := Shell.Raw.ofText
      match ← Shell.run host (raw directory.text) bindings (raw p.executable.text)
          (arguments.map raw) (raw source) with
      | .error f => pure (.error (p.startFailure f.message))
      | .ok o => pure (result o)

/-! ### A file tree -/

/-- A change of a file tree. -/
def change (f : FileSystem → Except FileFault FileSystem) :
    StateM FileSystem (Except FileFault Unit) := do
  match f (← get) with
  | .ok fs => do
    set fs
    return .ok ()
  | .error fault => return .error fault

/-- What a path leads to in a file tree. -/
def kindIn (fs : FileSystem) (p : Path) : Except FileFault Shell.Kind :=
  (fs.entry? p).map fun
    | .file content executable => .file content.bytes.length executable
    | _ => .directory

/-- What a script sees of a file tree. -/
def treeHost : Shell.Host (StateM FileSystem) where
  read p := do return ((← get).readBytes p).map Shell.Raw.ofBytes
  write p t := change fun fs => fs.write p (.ofBytes (Shell.Raw.bytes t))
  kind p := do return kindIn (← get) p
  isLink p := do return (← get).isLink p
  canonical p := do return (← get).canonical p
  list p := do return (← get).list p
  createDir p := change fun fs => fs.createDir p
  remove p := change fun fs => fs.remove p
  setExecutable p b := change fun fs => fs.setExecutable p b

/-- The variables that a script finds set. -/
def defaultVariables : List (Text × Text) :=
  [("PATH".toList,
      "/usr/local/sbin:/usr/local/bin:/usr/sbin:/usr/bin:/sbin:/bin".toList),
    ("HOME".toList, "/root".toList)]

/-- The directories that a script finds besides those of the tree: one for files that nobody needs
for long, and the one where its user is at home. -/
def defaultDirectories : List Path := [.ofString "/tmp", .ofString "/root"]

/-- The script as a compiler. -/
def compiler (p : ScriptCompiler) : Compiler where
  compile fs source includes :=
    let fs := defaultDirectories.foldl (fun fs p => (fs.createDirs p).toOption.getD fs) fs
    (compile treeHost (FileSystem.pathTo fs.workingDir) defaultVariables p source includes).run fs
  announce includes := (p.arguments includes).toOption.map p.announcement

end ScriptCompiler

end Retint
