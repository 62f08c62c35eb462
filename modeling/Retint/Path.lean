import Retint.Text

/-!
# Paths

A path is a text; two spellings of one place are two paths, and nothing here looks at a disk. The
operations work on the components of a path, the parts between slashes that are neither empty nor
a single dot. Only a dot right at the start of a relative path is a component.

## Main definitions

* `Path.join` — a path seen from a directory
* `Path.parent?`, `Path.fileName?`, `Path.extension?`
* `Path.quoted` — a path in quotes, for messages

## Main results

* `Path.join_of_isAbsolute` — an absolute path is seen the same from everywhere
-/

namespace Retint

/-- A path, as it is spelled. -/
structure Path where
  text : Text
deriving DecidableEq, Repr

namespace Path

def ofString (s : String) : Path := ⟨s.toList⟩

def isAbsolute (p : Path) : Bool := p.text.head? == some '/'

/-- The path `q` seen from the directory `p`: put after it with a slash between them unless `p` is
empty or ends in one. An absolute path stands for itself. -/
def join (p q : Path) : Path :=
  if q.isAbsolute then q
  else if p.text.isEmpty || p.text.getLast? == some '/' then ⟨p.text ++ q.text⟩
  else ⟨p.text ++ '/' :: q.text⟩

theorem join_of_isAbsolute (p : Path) {q : Path} (h : q.isAbsolute = true) : p.join q = q := by
  simp [join, h]

/-- Whether a part between slashes is no component. -/
def isFiller (part : Text) : Bool := part == [] || part == ['.']

/-- The parts of a path without the slash of an absolute one, the last part first. -/
def partsBack (p : Path) : List Text :=
  (Text.splitOn '/' (if p.isAbsolute then p.text.tail else p.text)).reverse

/-- Cuts fillers off the end. A dot that is the first part of a relative path stays. -/
def dropFiller (p : Path) : List Text → List Text
  | [] => []
  | part :: before =>
    if isFiller part && !(before.isEmpty && !p.isAbsolute && part == ['.']) then
      dropFiller p before
    else part :: before

/-- The last component of a path, and the parts before it, the last part first. -/
def lastPart? (p : Path) : Option (Text × List Text) :=
  match dropFiller p p.partsBack with
  | [] => none
  | part :: before => some (part, before)

/-- The path without its last component; a path without components has no parent. -/
def parent? (p : Path) : Option Path :=
  p.lastPart?.map fun (_, before) =>
    let kept := Text.joinWith ['/'] (dropFiller p before).reverse
    ⟨if p.isAbsolute then '/' :: kept else kept⟩

/-- The last component, unless it is one or two dots. -/
def fileName? (p : Path) : Option Text :=
  match p.lastPart? with
  | some (part, _) => if part = ['.'] ∨ part = ['.', '.'] then none else some part
  | none => none

/-- What follows the last dot of the file name, if something precedes that dot. -/
def extension? (p : Path) : Option Text :=
  match p.fileName?.bind (Text.cutLast? '.') with
  | some (stem, ext) => if stem.isEmpty then none else some ext
  | none => none

/-- The path with `more` written right after it. -/
def append (p : Path) (more : Text) : Path := ⟨p.text ++ more⟩

end Path

end Retint
