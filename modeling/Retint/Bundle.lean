import Retint.Files.Access
import Retint.Import

/-!
# Bundling a sheet with its imports

A sheet is flattened by putting the content of every imported file in the place of the import. A
file is inlined where it is met first and contributes nothing from then on. An import of a file
that is just being inlined is a cycle, which is a failure.

Files are told apart by their canonical paths. Where they come from is a parameter: any pair of
operations in a monad, so that the same definition runs on a file tree as a pure function and
among other work as a sequence of requests.

## Main definitions

* `Bundle.Source` — how canonical paths and texts are had
* `Bundle.expand`, `Bundle.flatten` — the expansion of pieces and of a file
* `Bundle.bundle` — a whole sheet
* `Bundle.ofTree` — a whole sheet in a file tree

## Implementation notes

The limit on nested imports is there to make the recursion end. Nested files are all different, so
a limit above the number of files is never reached.
-/

namespace Retint.Bundle

/-- How canonical paths and the texts of files are had, and what is done about a file that has been
met before. -/
structure Source (m : Type → Type) where
  canonical : Path → m (Except FileFault Path)
  read : Path → m (Except FileFault Text)
  skip : Path → m Unit

variable {m : Type → Type} [Monad m]

/-- The failure that reports a cycle: the files being inlined, and the one that came up again. -/
def cycle (stack : List Path) (again : Path) : Failure :=
  .bundle again ("import cycle: ".toList ++
    Text.joinWith " -> ".toList ((stack ++ [again]).map Path.text))

/-- Puts pieces together. What an import of a file in `dir` contributes is up to `inline`, which
takes and gives back the files that have been met. -/
def expand (inline : List Path → Path → m (Except Failure (Text × List Path))) (dir : Path) :
    List Import.Piece → List Path → m (Except Failure (Text × List Path))
  | [], seen => pure (.ok ([], seen))
  | piece :: rest, seen => do
    let here ← match piece with
      | .verbatim t => pure (.ok (t, seen))
      | .statement t target =>
        match Import.localPath? dir target with
        | some path => inline seen path
        | none => pure (.ok (t, seen))
    match here with
    | .error f => pure (.error f)
    | .ok (t, seen) =>
      match ← expand inline dir rest seen with
      | .error f => pure (.error f)
      | .ok (more, seen) => pure (.ok (t ++ more, seen))

/-- The expansion of a file, given the files being inlined, outermost first, and those that have
been met. -/
def flatten (source : Source m) : Nat → List Path → List Path → Path →
    m (Except Failure (Text × List Path))
  | 0, _, _, path => pure (.error (.bundle path "Imports nested too deeply".toList))
  | limit + 1, stack, seen, path => do
    match ← source.canonical path with
    | .error f => pure (.error (.bundle path f.message))
    | .ok file =>
      if stack.contains file then pure (.error (cycle stack file))
      else if seen.contains file then do
        source.skip file
        pure (.ok ([], seen))
      else
        match ← source.read file with
        | .error f => pure (.error (.bundle file f.message))
        | .ok content =>
          expand (flatten source limit (stack ++ [file])) (file.parent?.getD ⟨[]⟩)
            (Import.pieces content) (file :: seen)

/-- The text of a sheet with all its imports inlined. -/
def bundle (source : Source m) (limit : Nat) (entry : Path) : m (Except Failure Text) := do
  match ← flatten source limit [] [] entry with
  | .error f => pure (.error f)
  | .ok (t, _) => pure (.ok t)

/-! ### File trees -/

/-- The files of a tree. -/
def treeSource (fs : FileSystem) : Source Id where
  canonical := fs.canonical
  read := fs.readText
  skip _ := pure ()

/-- A limit on nested imports that no bundle of files of a tree comes up to. -/
def treeLimit (fs : FileSystem) : Nat := fs.root.fileCount + 1

/-- The text of a sheet in a file tree with all its imports inlined. -/
def ofTree (fs : FileSystem) (entry : Path) : Except Failure Text :=
  bundle (treeSource fs) (treeLimit fs) entry

end Retint.Bundle
