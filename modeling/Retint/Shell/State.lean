import Retint.Dict
import Retint.Failure
import Retint.Shell.Raw
import Retint.Shell.Syntax

/-!
# The state of a running script

A script runs as a process: it has variables, functions and streams. A stream leads to a channel:
a file, a text that is read, or a text that is being written. Processes that a script starts have
variables of their own, but they share the channels and the files.

Files are not part of the state. Where they come from is a parameter: operations in a monad.

## Main definitions

* `Shell.Host` — what a script sees of the files
* `Shell.Channel` — where a stream leads
* `Shell.Process`, `Shell.State` — what a script has done so far
* `Shell.Stop` — why the commands that follow are not run
* `Shell.Run` — a step of a script
* `Run.write`, `Run.peekInput`, `Run.useInput` — writing to streams and reading the input
* `Run.report` — telling of an error
* `Shell.open?` — the channel for a file
-/

namespace Retint.Shell

/-! ### Files -/

/-- What a path leads to. -/
inductive Kind
  | directory
  | file (size : Nat) (executable : Bool)
deriving DecidableEq, Repr

/-- What a script sees of the files. Their contents are bytes. -/
structure Host (m : Type → Type) where
  read : Path → m (Except FileFault Text)
  write : Path → Text → m (Except FileFault Unit)
  kind : Path → m (Except FileFault Kind)
  isLink : Path → m Bool
  canonical : Path → m (Except FileFault Path)
  list : Path → m (Except FileFault (List Text))
  createDir : Path → m (Except FileFault Unit)
  remove : Path → m (Except FileFault Unit)
  /-- Makes a file one that can be started, or one that cannot. -/
  setExecutable : Path → Bool → m (Except FileFault Unit)

/-! ### Channels -/

/-- Where a stream leads. -/
inductive Channel
  | nowhere
  /-- What is left of a text that is read. -/
  | source (rest : Text)
  /-- What has been written so far, in pieces, the latest first. -/
  | sink (pieces : List Text)
  /-- A place in a file. -/
  | file (path : Path) (offset : Nat) (access : Access)
deriving DecidableEq, Repr

/-- All that has been written to a channel. -/
def Channel.written : Channel → Text
  | sink pieces => pieces.reverse.flatten
  | _ => []

/-! ### Processes -/

structure Variable where
  value : Option Text
  isExported : Bool := false
  isFixed : Bool := false
deriving DecidableEq, Repr

/-- A script that is being run. -/
structure Process where
  name : Text
  arguments : List Text
  bindings : Dict Variable := .empty
  functions : Dict Command := .empty
  /-- The streams and their channels. -/
  streams : List (Nat × Nat)
  directory : Text
  /-- The letters of the options that are set. -/
  options : Text := []
  status : Nat := 0
  /-- The status of the last command whose output was caught. -/
  outputStatus : Nat := 0
  /-- The status of the last command in the background, if there was one. -/
  background : Option Nat := none
  line : Nat := 1
  /-- The built-in command that is being run. -/
  builtin : Option Text := none
  /-- What is run at the end of the script or on a signal. -/
  traps : Dict Text := .empty
  /-- The signals that have come in, the latest first. -/
  signals : List Text := []
  /-- Whether this process has been started as a copy of one that signals are sent to. -/
  isCopy : Bool := false
  /-- How much of the current argument has been looked at for options. -/
  optionOffset : Option Nat := none
  /-- How many loops, functions and files of commands are being run. -/
  loops : Nat := 0
  calls : Nat := 0
  /-- The variables that have been made local, with what they were before; the innermost function
  comes first. -/
  hidden : List (List (Text × Option Variable)) := []

/-- What a script has done so far. -/
structure State where
  process : Process
  channels : Array Channel

/-- Why the commands that follow are not run. -/
inductive Stop
  /-- So many loops are left. -/
  | leave (loops : Nat)
  /-- The loop around so many others goes on. -/
  | again (loops : Nat)
  /-- A function is left, or a file of commands. -/
  | back
  /-- The process is over, maybe with a status that has been asked for. -/
  | over (status : Option Nat)
  /-- The process has been ended by a signal. -/
  | killed (signal : Nat)
deriving DecidableEq, Repr

/-- A step of a script. -/
abbrev Run (m : Type → Type) := ExceptT Stop (ReaderT (Host m) (StateT State m))

namespace Run

variable {m : Type → Type} [Monad m]

/-! ### The process -/

def process : Run m Process := do return (← get).process

def modifyProcess (f : Process → Process) : Run m Unit :=
  modify fun s => { s with process := f s.process }

def status : Run m Nat := do return (← process).status

def setStatus (n : Nat) : Run m Unit := modifyProcess fun p => { p with status := n }

def hasOption (letter : Char) : Run m Bool := do return letter ∈ (← process).options

/-- The value of a variable. -/
def valueOf? (name : Text) : Run m (Option Text) := do
  return ((← process).bindings.get? name).bind Variable.value

/-- Runs an operation on the files. -/
def onHost {α : Type} (f : Host m → m α) : Run m α := do
  let host ← read
  liftM (f host)

/-- The path that a name stands for. -/
def pathOf (name : Text) : Run m Path := do
  if name.isEmpty then return ⟨[]⟩
  return (Path.mk (Raw.text (← process).directory)).join ⟨Raw.text name⟩

/-! ### Streams -/

/-- The channel of a stream. -/
def channelOf (stream : Nat) : Run m (Option Nat) := do
  return (← process).streams.lookup stream

def channel (k : Nat) : Run m Channel := do return ((← get).channels[k]?).getD .nowhere

def setChannel (k : Nat) (c : Channel) : Run m Unit :=
  modify fun s => { s with channels := s.channels.setIfInBounds k c }

/-- Opens a channel. -/
def addChannel (c : Channel) : Run m Nat := do
  let s ← get
  set { s with channels := s.channels.push c }
  return s.channels.size

/-- Lets a stream lead to a channel, or to nothing. -/
def connect (stream : Nat) (k : Option Nat) : Run m Unit :=
  modifyProcess fun p =>
    let others := p.streams.filter (·.1 != stream)
    { p with streams := match k with
        | some k => (stream, k) :: others
        | none => others }

/-- Writes to a channel. -/
def writeTo (k : Nat) (t : Text) : Run m Unit := do
  match ← channel k with
  | .sink pieces => setChannel k (.sink (t :: pieces))
  | .file path offset access => do
    if access = .read then return
    let old := ((← onHost (·.read path)).toOption).getD []
    let start := if access = .append then old.length else offset
    let gap := List.replicate (start - old.length) (Char.ofNat 0)
    let new := old.take start ++ gap ++ t ++ old.drop (start + t.length)
    let _ ← onHost (·.write path new)
    setChannel k (.file path (start + t.length) access)
  | _ => return

/-- Writes to a stream. -/
def write (stream : Nat) (t : Text) : Run m Unit := do
  if t.isEmpty then return
  match ← channelOf stream with
  | some k => writeTo k t
  | none => return

/-- Writes to the output. -/
def put (t : Text) : Run m Unit := write 1 t

/-- What can be read from a stream. -/
def peekStream (stream : Nat) : Run m Text := do
  match ← channelOf stream with
  | none => return []
  | some k =>
    match ← channel k with
    | .source rest => return rest
    | .file path offset _ => do
      return (((← onHost (·.read path)).toOption).getD []).drop offset
    | _ => return []

/-- Uses up characters of a stream. From a text that is not a file whole blocks are taken. -/
def useStream (stream count block : Nat) : Run m Unit := do
  match ← channelOf stream with
  | none => return
  | some k =>
    match ← channel k with
    | .source rest => setChannel k (.source (rest.drop ((count + block - 1) / block * block)))
    | .file path offset access => setChannel k (.file path (offset + count) access)
    | _ => return

def peekInput : Run m Text := peekStream 0

def useInput (count block : Nat) : Run m Unit := useStream 0 count block

/-- All that is left of the input. -/
def readInput : Run m Text := do
  let t ← peekInput
  useInput t.length 1
  return t

/-! ### Control -/

/-- Gives up a script that takes too many steps. -/
def giveUp {α : Type} : Run m α := throw (.killed 9)

/-- Does something after a step, whether the step comes to its end or not. -/
def ensuring {α : Type} (body : Run m α) (after : Run m Unit) : Run m α := do
  try
    let a ← body
    after
    return a
  catch e =>
    after
    throw e

/-! ### Errors -/

/-- Tells of an error of a tool. -/
def say (tool : Text) (message : Text) : Run m Unit :=
  write 2 (tool ++ ": ".toList ++ message ++ ['\n'])

/-- Tells of an error of the script. -/
def report (message : Text) : Run m Unit := do
  let p ← process
  let builtin := match p.builtin with
    | some name => name ++ ": ".toList
    | none => []
  say p.name (Raw.decimal p.line ++ ": ".toList ++ builtin ++ message)

/-- Tells of an error that ends the process. -/
def abort {α : Type} (message : Text) : Run m α := do
  report message
  setStatus 2
  throw (.over none)

/-! ### Files by name -/

/-- The stream that a file name stands for. -/
def streamName? (name : Text) : Option Nat :=
  match String.ofList name with
  | "/dev/stdin" => some 0
  | "/dev/stdout" => some 1
  | "/dev/stderr" => some 2
  | _ => (Text.dropLead? "/dev/fd/".toList name).bind Raw.natural?

def nullName : Text := "/dev/null".toList

/-- The content of a file by its name. -/
def readFile (name : Text) : Run m (Except FileFault Text) := do
  if name = nullName then return .ok []
  match streamName? name with
  | some stream => do
    let t ← peekStream stream
    useStream stream t.length 1
    return .ok t
  | none => do
    let p ← pathOf name
    onHost (·.read p)

/-- The content of an operand, of which a dash is the input. -/
def readOperand (name : Text) : Run m (Except FileFault Text) := do
  if name = ['-'] then return .ok (← readInput) else readFile name

/-- What a name leads to. -/
def kindOf (name : Text) : Run m (Except FileFault Kind) := do
  if name = nullName ∨ (streamName? name).isSome then return .ok (.file 0 false)
  let p ← pathOf name
  onHost (·.kind p)

end Run

/-- The channel for a file; the old content goes if the file is only written. -/
def open? {m : Type → Type} [Monad m] (access : Access) (name : Text) :
    Run m (Except FileFault Nat) := do
  if name = Run.nullName then return .ok (← Run.addChannel .nowhere)
  match Run.streamName? name with
  | some stream =>
    match ← Run.channelOf stream with
    | some k => return .ok k
    | none => return .error .notFound
  | none => do
    let p ← Run.pathOf name
    let kind ← Run.onHost (·.kind p)
    let create (_ : Unit) : Run m (Except FileFault Unit) := Run.onHost (·.write p [])
    let ready ← match access, kind with
      | .read, .ok _ => pure (.ok ())
      | .read, .error fault => pure (.error fault)
      | _, .ok .directory => pure (.error .isDirectory)
      | .write, _ => create ()
      | _, .ok _ => pure (.ok ())
      | _, .error .notFound => create ()
      | _, .error fault => pure (.error fault)
    match ready with
    | .ok () => return .ok (← Run.addChannel (.file p 0 access))
    | .error fault => return .error fault

/-- The reason for a fault, in words. -/
def reason (f : FileFault) : Text := f.reason.1.toList

end Retint.Shell
