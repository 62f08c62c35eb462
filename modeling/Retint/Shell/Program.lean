import Retint.Shell.Tool.Table

/-!
# Programs by name

A program is a tool, a shell, or a file whose first line names the program that runs it.

## Main definitions

* `Program.interpreter?` — what the first line of a file names
* `Program.locate?` — the path of the program with a name
* `Program.command`, `resolve` — what is run in the place of a file, and of a name
* `Starter` — how programs are started
-/

namespace Retint.Shell

/-- How a program is started: its status, unless it cannot be started. -/
abbrev Starter (m : Type → Type) := List Text → Run m (Except FileFault Nat)

namespace Program

variable {m : Type → Type} [Monad m]

/-- The names of the shells that are here. -/
def shells : List Text := ["sh", "dash", "bash"].map String.toList

/-- The names of the tools that run other programs. -/
def starters : List Text :=
  ["awk", "env", "find", "mawk", "nawk", "nice", "nohup", "timeout", "which", "xargs"].map
    String.toList

def isKnown (name : Text) : Bool :=
  shells.contains name || starters.contains name || (Tool.ofName? (m := Id) name).isSome

/-- The program that a path in a directory of tools means. -/
def known? (path : Text) : Option Text :=
  if '/' ∈ path && Tool.directories.contains (Tool.directoryOf path) && path.getLast? != some '/'
  then (some (Tool.nameOf path)).filter isKnown
  else none

/-- The interpreter that the first line of a file names, and the one argument that it can have. -/
def interpreter? (content : Text) : Option (Text × Option Text) :=
  (Text.dropLead? "#!".toList content).map fun rest =>
    let line := (rest.takeWhile (· != '\n')).dropWhile Raw.isBlank
    let line := (line.reverse.dropWhile Raw.isBlank).reverse
    let name := line.takeWhile (! Raw.isBlank ·)
    let argument := (line.drop name.length).dropWhile Raw.isBlank
    (name, if argument.isEmpty then none else some argument)

/-- The directories in which programs are looked for. -/
def searchPath : Run m (List Text) := do
  match ← Run.valueOf? "PATH".toList with
  | some t => return Text.splitOn ':' t
  | none => return Tool.directories

/-- Whether a path leads to a file that can be started; a fault tells why it does not. -/
def check (path : Text) : Run m (Except FileFault Unit) := do
  if (known? path).isSome then return .ok ()
  else
    match ← Run.kindOf path with
    | .ok (.file _ true) => return .ok ()
    | .ok _ => return .error .denied
    | .error fault => return .error fault

/-- The first of the directories that has a program with a name. -/
def search (name : Text) : FileFault → List Text → Run m (Except FileFault Text)
  | fault, [] => return .error fault
  | fault, dir :: rest => do
    let path := if dir.isEmpty then name else Raw.withoutTrailing '/' dir ++ '/' :: name
    match ← check path with
    | .ok () => return .ok path
    | .error .denied => search name .denied rest
    | .error _ => search name fault rest

/-- The path of the program with a name. -/
def locate? (name : Text) : Run m (Except FileFault Text) := do
  if '/' ∈ name then return .ok name
  else if name.isEmpty then return .error .notFound
  else search name .notFound (← searchPath)

/-- What is run in the place of a file: a program and its first arguments. Interpreters may be
nested at most so deep. -/
def command : Nat → Text → Run m (Except FileFault (List Text))
  | 0, _ => return .error .tooManyLinks
  | depth + 1, path => do
    match known? path with
    | some _ => return .ok [path]
    | none =>
      match ← check path with
      | .error fault => return .error fault
      | .ok () =>
        match ← Run.readFile path with
        | .error fault => return .error fault
        | .ok content =>
          match interpreter? content with
          | none => return .error .notProgram
          | some (name, argument) => do
            if name.isEmpty then return .error .notProgram
            else
              match ← command depth name with
              | .ok first => return .ok (first ++ argument.toList ++ [path])
              | .error fault => return .error fault

/-- How deep interpreters may be nested. -/
def interpreterDepth : Nat := 5

/-- What is run in the place of a name, and the name that it is then called by. -/
def resolve (name : Text) : Run m (Except FileFault (Text × List Text)) := do
  match ← locate? name with
  | .error fault => return .error fault
  | .ok path =>
    match ← command interpreterDepth path with
    | .error fault => return .error fault
    | .ok first => return .ok (if first.length = 1 then name else first.headD [], first)

end Program

end Retint.Shell
