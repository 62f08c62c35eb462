import Retint.Failure
import Retint.Files.Tree

/-!
# Finding files by path

A path is followed name by name from the root or from the working directory. Symbolic links on the
way are followed too, up to a limit, so that a path always leads somewhere or to a fault.

## Main definitions

* `FileSystem` — a file tree and a working directory
* `FileSystem.resolve` — where a path leads
* `FileSystem.canonical` — the path without links and dots for the same place

## Implementation notes

A path's parts are what stands between its slashes. A part that is empty or a dot stays where it
is, but asks that this be a directory; so a slash at the end of a file's path is a fault.
-/

namespace Retint

/-- A file tree and the directory from which relative paths start. -/
structure FileSystem where
  root : Files.Entry
  workingDir : List Text

namespace FileSystem

open Files

/-- How many links are followed on the way along one path. -/
def linkLimit : Nat := 40

/-- The longest name and the longest path, in bytes. -/
def nameLimit : Nat := 255

def pathLimit : Nat := 4095

/-- Where going along the parts of a path has come to an end. -/
inductive Stop
  /-- All parts are used up. Places are held in reverse. -/
  | arrived (place : List Text)
  /-- The next name is not in the directory; some parts may follow it. -/
  | missing (place : List Text) (name : Text) (rest : List Text)
  /-- The next name is a link. -/
  | atLink (target : Text) (place : List Text) (rest : List Text)
  | fault (f : FileFault)

/-- Goes along the parts up to their end or to the first link. -/
def go (fs : FileSystem) : List Text → List Text → Stop
  | place, [] => .arrived place
  | place, part :: rest =>
    match fs.root.at? place.reverse with
    | some (.dir entries) =>
      if part = [] ∨ part = ['.'] then go fs place rest
      else if part = ['.', '.'] then go fs place.tail rest
      else if nameLimit < Text.size part then .fault .nameTooLong
      else
        match entries.lookup part with
        | none => .missing place part rest
        | some (.link target) => .atLink target place rest
        | some _ => go fs (part :: place) rest
    | _ => .fault .notDirectory

/-- The parts of a path. -/
def parts (p : Text) : List Text := Text.splitOn '/' p

/-- Goes along the parts and follows links, at most as many as the first argument. -/
def goThrough (fs : FileSystem) : Nat → List Text → List Text → Stop
  | 0, place, ps =>
    match fs.go place ps with
    | .atLink .. => .fault .tooManyLinks
    | stop => stop
  | n + 1, place, ps =>
    match fs.go place ps with
    | .atLink target place rest =>
      if target = [] then .fault .notFound
      else
        goThrough fs n (if target.head? = some '/' then [] else place) (parts target ++ rest)
    | stop => stop

/-- Why a text cannot be a path at all. -/
def pathFault? (p : Text) : Option FileFault :=
  if Char.ofNat 0 ∈ p then some .nulInPath
  else if p = [] then some .notFound
  else if pathLimit < Text.size p then some .nameTooLong
  else none

/-- Where a path starts. -/
def base (fs : FileSystem) (p : Path) : List Text :=
  if p.isAbsolute then [] else fs.workingDir.reverse

/-- Where a path leads. -/
def resolve (fs : FileSystem) (p : Path) : Stop :=
  match pathFault? p.text with
  | some f => .fault f
  | none => fs.goThrough linkLimit (fs.base p) (parts p.text)

/-- The names on the way to the place that a path leads to. -/
def place? (fs : FileSystem) (p : Path) : Except FileFault (List Text) :=
  match fs.resolve p with
  | .arrived place => .ok place.reverse
  | .missing .. => .error .notFound
  | .atLink .. => .error .tooManyLinks
  | .fault f => .error f

/-- What a path leads to. -/
def entry? (fs : FileSystem) (p : Path) : Except FileFault Entry :=
  match fs.place? p with
  | .ok names =>
    match fs.root.at? names with
    | some e => .ok e
    | none => .error .notFound
  | .error f => .error f

/-- The path made of the names on the way to a place. -/
def pathTo (names : List Text) : Path := ⟨'/' :: Text.joinWith ['/'] names⟩

/-- The path without links and dots that leads to the same place. -/
def canonical (fs : FileSystem) (p : Path) : Except FileFault Path :=
  (fs.place? p).map pathTo

def isFile (fs : FileSystem) (p : Path) : Bool :=
  match fs.entry? p with
  | .ok e => e.isFile
  | .error _ => false

def isDir (fs : FileSystem) (p : Path) : Bool :=
  match fs.entry? p with
  | .ok e => e.isDir
  | .error _ => false

end FileSystem

end Retint
