import Retint.Files.Lookup

/-!
# Reading and writing files

## Main definitions

* `FileSystem.readText`, `readBytes`, `list`, `walk` — reading files, directories
  and whole trees
* `FileSystem.write`, `setExecutable`, `makeDirs`, `remove` — changing the tree
-/

namespace Retint.FileSystem

open Files

/-! ### Reading -/

/-- The content of a file. -/
def read (fs : FileSystem) (p : Path) : Except FileFault Content :=
  match fs.entry? p with
  | .ok (.file content _) => .ok content
  | .ok _ => .error .isDirectory
  | .error f => .error f

/-- The text of a file. -/
def readText (fs : FileSystem) (p : Path) : Except FileFault Text :=
  match fs.read p with
  | .ok (.text t) => .ok t
  | .ok (.raw _) => .error .notText
  | .error f => .error f

/-- The bytes of a file. -/
def readBytes (fs : FileSystem) (p : Path) : Except FileFault (List UInt8) :=
  (fs.read p).map Content.bytes

/-- The names in a directory, in no particular order. -/
def list (fs : FileSystem) (p : Path) : Except FileFault (List Text) :=
  match fs.entry? p with
  | .ok (.dir entries) => .ok (entries.map Prod.fst)
  | .ok _ => .error .notDirectory
  | .error f => .error f

/-- The last name of a path and where the directory with it is, when that name is not to be
followed if it is a link. Slashes at the end do not count. -/
def parentOf (fs : FileSystem) (p : Path) : Except FileFault (List Text × Text) :=
  match pathFault? p.text with
  | some f => .error f
  | none =>
    match (parts p.text).reverse.dropWhile (·.isEmpty) with
    | [] => .error .exists
    | name :: before =>
      if nameLimit < Text.size name then .error .nameTooLong
      else
        match fs.goThrough linkLimit (fs.base p) before.reverse with
        | .arrived place =>
          match fs.root.at? place.reverse with
          | some (.dir _) => .ok (place.reverse, name)
          | _ => .error .notDirectory
        | .missing .. => .error .notFound
        | .atLink .. => .error .tooManyLinks
        | .fault f => .error f

/-- Whether a path is a link itself. -/
def isLink (fs : FileSystem) (p : Path) : Bool :=
  match fs.parentOf p with
  | .ok (names, name) =>
    match fs.root.at? (names ++ [name]) with
    | some (.link _) => p.text.getLast? != some '/'
    | _ => false
  | .error _ => false

/-- The files in the tree under a path, in walk order. A link is not followed, unless it is the
path itself and leads to a directory. -/
def walk (fs : FileSystem) (p : Path) : Except FileFault (List Path) :=
  match fs.entry? p with
  | .ok e => .ok (if e.isFile && fs.isLink p then [] else e.files p)
  | .error f => .error f

/-! ### Writing -/

def put (fs : FileSystem) (names : List Text) (e : Entry) : FileSystem :=
  { fs with root := Entry.put e names fs.root }

/-- Writes a file, which is created if it is not there. -/
def write (fs : FileSystem) (p : Path) (content : Content) : Except FileFault FileSystem :=
  match fs.resolve p with
  | .arrived place =>
    match fs.root.at? place.reverse with
    | some (.file _ executable) => .ok (fs.put place.reverse (.file content executable))
    | _ => .error .isDirectory
  | .missing place name rest =>
    match rest with
    | [] => .ok (fs.put (name :: place).reverse (.file content false))
    | [[]] => .error .isDirectory
    | _ => .error .notFound
  | .atLink .. => .error .tooManyLinks
  | .fault f => .error f

/-- Makes a file one that can be started, or one that cannot. -/
def setExecutable (fs : FileSystem) (p : Path) (executable : Bool) :
    Except FileFault FileSystem :=
  match fs.place? p with
  | .ok names =>
    match fs.root.at? names with
    | some (.file content _) => .ok (fs.put names (.file content executable))
    | _ => .error .notFound
  | .error f => .error f

def makeExecutable (fs : FileSystem) (p : Path) : Except FileFault FileSystem :=
  fs.setExecutable p true

/-- Creates a directory in a directory that is there. -/
def createDir (fs : FileSystem) (p : Path) : Except FileFault FileSystem :=
  match fs.parentOf p with
  | .ok (names, name) =>
    match fs.root.at? (names ++ [name]) with
    | some _ => .error .exists
    | none =>
      if name = ['.'] then .error .notFound
      else if name = ['.', '.'] then .error .exists
      else .ok (fs.put (names ++ [name]) (.dir []))
  | .error f => .error f

/-- Creates a directory and the directories on the way to it that are not there, at most as many
as the first argument. What has been created stays, also if the rest cannot be. -/
def makeDirsUpTo : Nat → FileSystem → Path → Except FileFault Unit × FileSystem
  | 0, fs, _ => (.error .notFound, fs)
  | fuel + 1, fs, p =>
    if p.text = [] then (.ok (), fs)
    else
      match fs.createDir p with
      | .ok fs => (.ok (), fs)
      | .error .notFound =>
        match p.parent? with
        | none => (.error .notFound, fs)
        | some parent =>
          match makeDirsUpTo fuel fs parent with
          | (.error f, fs) => (.error f, fs)
          | (.ok (), fs) =>
            match fs.createDir p with
            | .ok fs => (.ok (), fs)
            | .error f => (if fs.isDir p then .ok () else .error f, fs)
      | .error f => (if fs.isDir p then .ok () else .error f, fs)

/-- Creates a directory and the directories on the way to it that are not there. -/
def makeDirs (fs : FileSystem) (p : Path) : Except FileFault Unit × FileSystem :=
  makeDirsUpTo (p.text.length + 1) fs p

/-- The tree with a directory and the directories on the way to it. -/
def createDirs (fs : FileSystem) (p : Path) : Except FileFault FileSystem :=
  match fs.makeDirs p with
  | (.ok (), fs) => .ok fs
  | (.error f, _) => .error f

/-- Makes a symbolic link, in the place of nothing. -/
def createLink (fs : FileSystem) (p : Path) (target : Text) : Except FileFault FileSystem :=
  match fs.parentOf p with
  | .ok (names, name) =>
    match fs.root.at? (names ++ [name]) with
    | some _ => .error .exists
    | none => .ok (fs.put (names ++ [name]) (.link target))
  | .error f => .error f

/-- Removes a file, a link, or a directory with all that is in it. -/
def remove (fs : FileSystem) (p : Path) : Except FileFault FileSystem :=
  match fs.parentOf p with
  | .ok (names, name) =>
    match fs.root.at? (names ++ [name]) with
    | some _ => .ok { fs with root := Entry.erase (names ++ [name]) fs.root }
    | none => .error .notFound
  | .error f => .error f

/-- The file system that has only a working directory and the directories on the way to it. -/
def empty (workingDir : List Text) : FileSystem :=
  ⟨workingDir.foldr (fun name e => .dir [(name, e)]) (.dir []), workingDir⟩

end Retint.FileSystem
