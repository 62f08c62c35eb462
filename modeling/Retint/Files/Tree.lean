import Retint.Dict
import Retint.Path
import Retint.Text.Utf8

/-!
# File trees

What a disk holds: directories, files and symbolic links, by name. A place in a tree is the list
of names on the way to it; here no link is followed.

## Main definitions

* `Files.Content` — the content of a file
* `Files.Entry` — a file, a link, or a directory with its entries
* `Files.Entry.at?`, `put`, `erase` — looking up and changing what is at a place
* `Files.Entry.files` — the files of a tree in walk order

## Main results

* `Files.Entry.at?_put` — what is put at a place whose parent is a directory is found there
-/

namespace Retint.Files

/-- The content of a file: text, or bytes that are no text. -/
inductive Content
  | text (t : Text)
  | raw (bytes : List UInt8)
deriving DecidableEq, Repr

/-- The content that consists of some bytes. -/
def Content.ofBytes (bytes : List UInt8) : Content :=
  match Text.ofUtf8? bytes with
  | some t => .text t
  | none => .raw bytes

/-- The bytes of a content. -/
def Content.bytes : Content → List UInt8
  | text t => Text.utf8 t
  | raw bytes => bytes

/-- What a name in a directory stands for. -/
inductive Entry
  | file (content : Content) (executable : Bool)
  | link (target : Text)
  | dir (entries : List (Text × Entry))
deriving Repr

namespace Entry

def isDir : Entry → Bool
  | dir _ => true
  | _ => false

def isFile : Entry → Bool
  | file .. => true
  | _ => false

/-- The entry with a name in a directory. -/
def child? (name : Text) : Entry → Option Entry
  | dir entries => entries.lookup name
  | _ => none

/-- What is at a place. -/
def at? : List Text → Entry → Option Entry
  | [], e => some e
  | name :: rest, e => (e.child? name).bind (at? rest)

/-- The tree with `new` at a place. Directories on the way must be there; if one is not, the tree
stays as it is. -/
def put (new : Entry) : List Text → Entry → Entry
  | [], _ => new
  | [name], dir entries => dir (Dict.put name new entries)
  | name :: rest, dir entries =>
    match entries.lookup name with
    | some child => dir (Dict.put name (put new rest child) entries)
    | none => dir entries
  | _, e => e

/-- The tree without what is at a place. -/
def erase : List Text → Entry → Entry
  | [name], dir entries => dir (entries.filter fun entry => entry.1 != name)
  | name :: rest, dir entries =>
    match entries.lookup name with
    | some child => dir (Dict.put name (erase rest child) entries)
    | none => dir entries
  | _, e => e

theorem at?_put {new : Entry} {names : List Text} {name : Text} {e parent : Entry}
    (h : e.at? names = some parent) (hd : parent.isDir = true) :
    (put new (names ++ [name]) e).at? (names ++ [name]) = some new := by
  induction names generalizing e with
  | nil =>
    obtain rfl : e = parent := by simpa [at?] using h
    cases e with
    | dir entries => simp [put, at?, child?, Dict.lookup_put]
    | file => simp [isDir] at hd
    | link => simp [isDir] at hd
  | cons n ns ih =>
    cases e with
    | dir entries =>
      cases hl : entries.lookup n with
      | none => simp [at?, child?, hl] at h
      | some child =>
        have hc : child.at? ns = some parent := by simpa [at?, child?, hl] using h
        cases ns with
        | nil => simpa [put, at?, child?, hl, Dict.lookup_put] using ih hc
        | cons m ms => simpa [put, at?, child?, hl, Dict.lookup_put] using ih hc
    | file => simp [at?, child?] at h
    | link => simp [at?, child?] at h

/-! ### Walking a tree -/

mutual

/-- The files of a tree at `base`: a directory's entries come in the order of their names, and a
directory's own files come where its name does. Links are passed over. -/
def files (base : Path) : Entry → List Path
  | file .. => [base]
  | link _ => []
  | dir entries =>
    ((filesIn base entries).mergeSort fun a b => a.1.le b.1).flatMap Prod.snd

/-- The names of a directory, each with the files found there. -/
def filesIn (base : Path) : List (Text × Entry) → List (Text × List Path)
  | [] => []
  | (name, e) :: rest => (name, files (base.join ⟨name⟩) e) :: filesIn base rest

end

mutual

/-- The number of files in a tree. -/
def fileCount : Entry → Nat
  | file .. => 1
  | link _ => 0
  | dir entries => fileCountIn entries

def fileCountIn : List (Text × Entry) → Nat
  | [] => 0
  | (_, e) :: rest => fileCount e + fileCountIn rest

end

end Entry

end Retint.Files
