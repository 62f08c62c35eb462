import Retint.Shell.Tool.Lines

/-!
# Tools for files

Tools that create, remove, move and show files and directories.

## Main definitions

* `Tool.mkdir`, `Tool.rmdir`, `Tool.touch`, `Tool.rm` — creating and removing
* `Tool.cp`, `Tool.mv` — copying and moving
* `Tool.chmod` — making files executable
* `Tool.ls`, `Tool.readlink`, `Tool.realpath`, `Tool.mktemp` — what is there, and where
* `Tool.cmp` — whether two files are the same
-/

namespace Retint.Shell.Tool

variable {m : Type → Type} [Monad m]

/-- A text in quotes. -/
def quoted (t : Text) : Text := '\'' :: t ++ ['\'']

/-- Goes through operands; the status is one if something goes wrong with one of them. -/
def forOperands (operands : List Text) (f : Text → Run m Bool) : Run m Nat :=
  operands.foldlM (fun status operand => do
    return if ← f operand then status else 1) 0

/-- Tells of a fault, which is a failure. -/
def complain (name : String) (doing : Text) (fault : FileFault) : Run m Bool := do
  Run.say name.toList (doing ++ ": ".toList ++ reason fault)
  return false

/-- Tells that operands are missing. -/
def missing (name : String) (what : String) : Run m Nat := do
  misuse name what.toList
  return 1

/-! ### Creating and removing -/

/-- The paths that lead to a path, from the shortest one to itself. -/
def waysTo (path : Text) : List Text :=
  let parts := Text.splitOn '/' (Raw.withoutTrailing '/' path)
  ((List.range parts.length).map fun n => Text.joinWith ['/'] (parts.take (n + 1))).filter
    fun t => !t.isEmpty

/-- Creates a directory and those on the way to it. -/
def createAll (path : Text) : Run m (Except FileFault Unit) :=
  (waysTo path).foldlM (fun result way => do
    match result with
    | .error fault => return .error fault
    | .ok () =>
      match ← Run.kindOf way with
      | .ok .directory => return .ok ()
      | .ok (.file ..) =>
        return .error (if way.length = path.length then .exists else .notDirectory)
      | .error .notFound => do
        let p ← Run.pathOf way
        Run.onHost (·.createDir p)
      | .error fault => return .error fault) (.ok ())

def mkdir : Tool m := withOptions "mkdir" (.of "pv" "m" [("parents", 'p'), ("mode", 'm')]) 1
    fun a => do
  if a.operands.isEmpty then missing "mkdir" "missing operand"
  else forOperands a.operands fun name => do
    let p ← Run.pathOf (Raw.withoutTrailing '/' name)
    let result ← if a.has 'p' then createAll name else Run.onHost (·.createDir p)
    match result with
    | .ok () => return true
    | .error fault => complain "mkdir" ("cannot create directory ".toList ++ quoted name) fault

def rmdir : Tool m := withOptions "rmdir" (.of "pv" "" [("parents", 'p')]) 1 fun a => do
  if a.operands.isEmpty then missing "rmdir" "missing operand"
  else
    let names := a.operands.flatMap fun name =>
      if a.has 'p' then (waysTo name).reverse else [name]
    forOperands names fun name => do
      let failed := "failed to remove ".toList ++ quoted name
      let p ← Run.pathOf name
      match ← Run.onHost (·.list p) with
      | .error fault => complain "rmdir" failed fault
      | .ok [] => do
        let _ ← Run.onHost (·.remove p)
        return true
      | .ok _ => do
        Run.say "rmdir".toList (failed ++ ": Directory not empty".toList)
        return false

def touch : Tool m := withOptions "touch" (.of "acmh" "drt" [("no-create", 'c')]) 1 fun a => do
  if a.operands.isEmpty then missing "touch" "missing file operand"
  else forOperands a.operands fun name => do
    match ← Run.kindOf name with
    | .ok _ => return true
    | .error fault =>
      if a.has 'c' then return true
      else
        let p ← Run.pathOf name
        let result ← if fault = .notFound then Run.onHost (·.write p [])
          else pure (.error fault)
        match result with
        | .ok () => return true
        | .error fault => complain "touch" ("cannot touch ".toList ++ quoted name) fault

def rm : Tool m := withOptions "rm" (.of "rRfdvi" "" [("recursive", 'r'), ("force", 'f')]) 1
    fun a => do
  if a.operands.isEmpty then if a.has 'f' then return 0 else missing "rm" "missing operand"
  else forOperands a.operands fun name => do
    let cannot := "cannot remove ".toList ++ quoted name
    let isDeep := a.has 'r' || a.has 'R'
    let p ← Run.pathOf name
    if ← Run.onHost (·.isLink p) then
      let _ ← Run.onHost (·.remove p)
      return true
    else
      match ← Run.kindOf name with
      | .error .notFound | .error .notDirectory =>
        if a.has 'f' then return true else complain "rm" cannot .notFound
      | .error fault => complain "rm" cannot fault
      | .ok kind =>
        let isEmptyDir := a.has 'd' && (← Run.onHost (·.list p)).toOption = some []
        if kind = .directory && !isDeep && !isEmptyDir then complain "rm" cannot .isDirectory
        else
          match ← Run.onHost (·.remove p) with
          | .ok () => return true
          | .error fault => complain "rm" cannot fault

/-! ### Copying and moving -/

/-- Copies a file or a directory with what is in it, at most so deep. -/
def copyTree : Nat → Path → Path → Run m (Except FileFault Unit)
  | 0, _, _ => return .error .nameTooLong
  | depth + 1, source, target => do
    match ← Run.onHost (·.kind source) with
    | .error fault => return .error fault
    | .ok (.file _ executable) => do
      match ← Run.onHost (·.read source) with
      | .error fault => return .error fault
      | .ok t => do
        let isNew := (← Run.onHost (·.kind target)).toOption.isNone
        let result ← Run.onHost (·.write target t)
        if isNew && executable then
          let _ ← Run.onHost (·.setExecutable target true)
        return result
    | .ok .directory => do
      if (← Run.onHost (·.kind target)).toOption.isNone then
        let _ ← Run.onHost (·.createDir target)
      match ← Run.onHost (·.list source) with
      | .error fault => return .error fault
      | .ok names =>
        names.foldlM (fun result name => do
          match result with
          | .error fault => return .error fault
          | .ok () => copyTree depth (source.join ⟨name⟩) (target.join ⟨name⟩)) (.ok ())

/-- How deep directories are copied. -/
def copyDepth : Nat := 200

/-- The target for a source: in a directory it has the name of the source. -/
def targetOf (source target : Text) : Run m Text := do
  match ← Run.kindOf target with
  | .ok .directory => return Raw.withoutTrailing '/' target ++ '/' :: nameOf source
  | _ => return target

/-- Splits operands into sources and a target; several sources need a directory. -/
def sourcesAndTarget (name : String) (a : Arguments) : Run m (Option (List Text × Text)) := do
  let operands := match a.value? 't' with
    | some target => a.operands ++ [target]
    | none => a.operands
  match operands.reverse with
  | [] => do
    misuse name "missing file operand".toList
    return none
  | [source] => do
    misuse name ("missing destination file operand after ".toList ++ quoted source)
    return none
  | target :: sources =>
    if 1 < sources.length then
      match ← Run.kindOf target with
      | .ok .directory => return some (sources.reverse, target)
      | .ok _ => do
        Run.say name.toList ("target ".toList ++ quoted target ++ ": Not a directory".toList)
        return none
      | .error fault => do
        Run.say name.toList ("target ".toList ++ quoted target ++ ": ".toList ++ reason fault)
        return none
    else return some (sources.reverse, target)

/-- Tells that two names lead to the same file. -/
def sameFile (name : String) (a b : Text) : Run m Bool := do
  Run.say name.toList (quoted a ++ " and ".toList ++ quoted b ++ " are the same file".toList)
  return false

/-- Whether two paths lead to the same place. -/
def isSamePlace (p q : Path) : Run m Bool := do
  match ← Run.onHost (·.canonical p), ← Run.onHost (·.canonical q) with
  | .ok p, .ok q => return p = q
  | _, _ => return false

def cp : Tool m := withOptions "cp" (.of "rRafpvnLPdHTu" "t" [("recursive", 'r'),
    ("archive", 'a'), ("force", 'f')]) 1 fun a => do
  match ← sourcesAndTarget "cp" a with
  | none => return 1
  | some (sources, target) =>
    forOperands sources fun source => do
      let full ← targetOf source target
      let p ← Run.pathOf source
      let q ← Run.pathOf full
      match ← Run.kindOf source with
      | .error fault => complain "cp" ("cannot stat ".toList ++ quoted source) fault
      | .ok kind =>
        if kind = .directory && !(a.has 'r' || a.has 'R' || a.has 'a') then
          Run.say "cp".toList ("-r not specified; omitting directory ".toList ++ quoted source)
          return false
        else if ← isSamePlace p q then sameFile "cp" source full
        else if a.has 'n' && (← Run.kindOf full).toOption.isSome then return true
        else
          match ← copyTree copyDepth p q with
          | .ok () => return true
          | .error fault =>
            let fault := if full.getLast? = some '/' then .notDirectory else fault
            complain "cp" ("cannot create regular file ".toList ++ quoted full) fault

def mv : Tool m := withOptions "mv" (.of "fvnTu" "t" [("force", 'f')]) 1 fun a => do
  match ← sourcesAndTarget "mv" a with
  | none => return 1
  | some (sources, target) =>
    forOperands sources fun source => do
      let full ← targetOf source target
      let p ← Run.pathOf source
      let q ← Run.pathOf full
      match ← Run.kindOf source, ← Run.kindOf full with
      | .error fault, _ => complain "mv" ("cannot stat ".toList ++ quoted source) fault
      | .ok .directory, .ok (.file ..) => do
        Run.say "mv".toList ("cannot overwrite non-directory ".toList ++ quoted full ++
          " with directory ".toList ++ quoted source)
        return false
      | .ok kind, existing =>
        if ← isSamePlace p q then sameFile "mv" source full
        else if a.has 'n' && existing.toOption.isSome then return true
        else
          if existing.toOption.isSome then
            let _ ← Run.onHost (·.remove q)
          match ← copyTree copyDepth p q with
          | .ok () => do
            if kind matches .file _ true then
              let _ ← Run.onHost (·.setExecutable q true)
            let _ ← Run.onHost (·.remove p)
            return true
          | .error fault =>
            complain "mv" ("cannot move ".toList ++ quoted source ++ " to ".toList ++
              quoted full) fault

/-! ### Modes -/

/-- Whether a mode makes a file executable, or makes it none; nothing if it leaves that as it is.
The outer answer is missing if it is no mode. -/
def executes? (mode : Text) : Option (Option Bool) :=
  if !mode.isEmpty && mode.all Format.isOctal then
    some (some ((mode.reverse.take 3).any fun c => c.toNat % 2 = 1))
  else
    (Text.splitOn ',' mode).foldlM (fun found clause =>
      match clause.dropWhile ("ugoa".toList.contains ·) with
      | sign :: letters =>
        if !"+-=".toList.contains sign || !letters.all ("rwxXst".toList.contains ·) then none
        else if 'x' ∈ letters then some (some (sign != '-'))
        else if sign = '=' then some (some false)
        else some found
      | [] => none) none

/-- Arguments of which those that take a permission away are no options. -/
def spellMode (arguments : List Text) : List Text :=
  arguments.flatMap fun
    | '-' :: c :: more =>
      if "rwx".toList.contains c then [['-', '-'], '-' :: c :: more] else ['-' :: c :: more]
    | a => [a]

def chmod : Tool m := fun arguments =>
  withOptions "chmod" (.of "Rvfc") 1 (fun a => do
    match a.operands with
    | [] => missing "chmod" "missing operand"
    | [mode] => do
      misuse "chmod" ("missing operand after ".toList ++ quoted mode)
      return 1
    | mode :: names =>
      match executes? mode with
      | none => do
        misuse "chmod" ("invalid mode: ".toList ++ quoted mode)
        return 1
      | some change =>
        forOperands names fun name => do
          match ← Run.kindOf name with
          | .error fault => complain "chmod" ("cannot access ".toList ++ quoted name) fault
          | .ok .directory => return true
          | .ok (.file ..) => do
            let p ← Run.pathOf name
            match change with
            | some b => do
              let _ ← Run.onHost (·.setExecutable p b)
              return true
            | none => return true) (spellMode arguments)

/-! ### Showing -/

/-- The names in a directory that are shown, in their order. -/
def shownNames (a : Arguments) (names : List Text) : List Text :=
  let all := names.map Raw.ofText ++ if a.has 'a' then [['.'], ['.', '.']] else []
  let kept := if a.has 'a' || a.has 'A' then all else all.filter fun n => n.head? != some '.'
  let sorted := kept.mergeSort Text.le
  if a.has 'r' then sorted.reverse else sorted

/-- A name with the mark of its kind, if marks are asked for. -/
def markedName (a : Arguments) (path name : Text) : Run m Text := do
  if !(a.has 'F' || a.has 'p') then return name
  else
    match ← Run.kindOf path with
    | .ok .directory => return name ++ ['/']
    | .ok (.file _ true) => return if a.has 'F' then name ++ ['*'] else name
    | _ => return name

/-- The names as they are shown. -/
def listing (a : Arguments) (names : List Text) : Text :=
  if a.has 'm' then
    if names.isEmpty then [] else Text.joinWith ", ".toList names ++ ['\n']
  else names.flatMap (· ++ ['\n'])

/-- What is in a directory, with a title if there is more than one; also what is in its
directories, at most so deep. -/
def showDirectory (a : Arguments) : Nat → Text → Run m (List (Text × Text))
  | 0, _ => return []
  | depth + 1, name => do
    let p ← Run.pathOf name
    let names := shownNames a (((← Run.onHost (·.list p)).toOption).getD [])
    let path (n : Text) : Text := Raw.withoutTrailing '/' name ++ '/' :: n
    let marked ← names.mapM fun n => markedName a (path n) n
    let below ← if a.has 'R' then
        names.flatMapM fun n => do
          match ← Run.kindOf (path n) with
          | .ok .directory =>
            if n = ['.'] ∨ n = ['.', '.'] then return [] else showDirectory a depth (path n)
          | _ => return []
      else pure []
    return (name, listing a marked) :: below

def ls : Tool m := withOptions "ls" (.of "1aAdFpRrmCUfh" "" [("all", 'a'),
    ("almost-all", 'A'), ("directory", 'd'), ("recursive", 'R'), ("reverse", 'r')]) 2 fun a => do
  let operands := if a.operands.isEmpty then [['.']] else a.operands
  let found ← operands.filterMapM fun name => do
    match ← Run.kindOf name with
    | .ok kind => return some (name, kind)
    | .error fault => do
      let _ ← complain "ls" ("cannot access ".toList ++ quoted name) fault
      return none
  let sorted := found.mergeSort fun x y => Text.le x.1 y.1
  let sorted := if a.has 'r' then sorted.reverse else sorted
  let (dirs, files) := sorted.partition fun x => x.2 == .directory && !a.has 'd'
  let names ← files.mapM fun x => markedName a x.1 x.1
  Run.put (listing a names)
  let shown ← dirs.flatMapM fun x => showDirectory a copyDepth x.1
  let hasTitles := 1 < operands.length || a.has 'R'
  let blocks := shown.map fun (name, t) => if hasTitles then name ++ ":\n".toList ++ t else t
  if !names.isEmpty && !blocks.isEmpty then Run.put ['\n']
  Run.put (Text.joinWith ['\n'] blocks)
  return if found.length = operands.length then 0 else 2

/-- The path without links of a place whose last name need not be there. -/
def resolved (strict : Bool) (name : Text) : Run m (Except FileFault Text) := do
  let p ← Run.pathOf name
  match ← Run.onHost (·.canonical p) with
  | .ok q => return .ok (Raw.ofText q.text)
  | .error fault =>
    if strict then return .error fault
    else
      let dir ← Run.pathOf (directoryOf name)
      match ← Run.onHost (·.canonical dir) with
      | .ok q => return .ok (Raw.withoutTrailing '/' (Raw.ofText q.text) ++ '/' :: nameOf name)
      | .error fault => return .error fault

def readlink : Tool m := withOptions "readlink" (.of "femnqsvz" "" [("canonicalize", 'f')]) 1
    fun a => do
  if a.operands.isEmpty then missing "readlink" "missing operand"
  else forOperands a.operands fun name => do
    if a.has 'f' || a.has 'e' || a.has 'm' then
      match ← resolved (a.has 'e') name with
      | .ok t => do
        Run.put (t ++ if a.has 'n' then [] else ['\n'])
        return true
      | .error _ => return false
    else return false

def realpath : Tool m := withOptions "realpath" (.of "emsqzLP" "") 1 fun a => do
  if a.operands.isEmpty then missing "realpath" "missing operand"
  else forOperands a.operands fun name => do
    match ← resolved (a.has 'e') name with
    | .ok t => do
      Run.put (t ++ ['\n'])
      return true
    | .error fault => complain "realpath" name fault

/-- A name in which each mark at the end is replaced by a letter. -/
def filled (template : Text) : Text :=
  let marks := (template.reverse.takeWhile (· == 'X')).length
  template.take (template.length - marks) ++ "aB3dE6gH9jK2".toList.take marks

def mktemp : Tool m := withOptions "mktemp" (.of "dqu" "pt" [("directory", 'd'), ("quiet", 'q'),
    ("tmpdir", 'p')]) 1 fun a => do
  let template := a.operands.headD "tmp.XXXXXXXXXX".toList
  let dir := if a.operands.isEmpty || a.has 'p' then
      (a.value? 'p').getD "/tmp".toList ++ ['/'] else []
  if (template.reverse.takeWhile (· == 'X')).length < 3 then
    Run.say "mktemp".toList ("too few X's in template ".toList ++ quoted template)
    return 1
  else
    let taken (name : Text) : Run m Bool := do return (← Run.kindOf name).toOption.isSome
    let names := (List.range 100).map fun n =>
      let t := filled (dir ++ template)
      t.take (t.length - 2) ++ Number.digitsOf 2 n
    match ← names.findM? fun name => do return !(← taken name) with
    | none => return 1
    | some name => do
      let p ← Run.pathOf name
      let result ← if a.has 'd' then Run.onHost (·.createDir p) else Run.onHost (·.write p [])
      match result with
      | .ok () => do
        Run.put (name ++ ['\n'])
        return 0
      | .error fault => do
        let kind := if a.has 'd' then "directory" else "file"
        let _ ← complain "mktemp" (("failed to create " ++ kind ++ " via template ").toList ++
          quoted (dir ++ template)) fault
        return 1

/-! ### Comparing -/

/-- The position of the first difference of two texts, counted from one, and its line. -/
def firstDifference (position line : Nat) : Text → Text → Nat × Nat
  | c :: t, d :: u =>
    if c = d then firstDifference (position + 1) (if c = '\n' then line + 1 else line) t u
    else (position, line)
  | _, _ => (position, line)

def cmp : Tool m := withOptions "cmp" (.of "s" "" [("quiet", 's'), ("silent", 's')]) 2 fun a => do
  let name (n : Nat) : Text := a.operands.getD n ['-']
  if a.operands.isEmpty then
    misuse "cmp" "missing operand after 'cmp'".toList
    return 2
  else
    match ← Run.readOperand (name 0), ← Run.readOperand (name 1) with
    | .error fault, _ => do
      let _ ← complain "cmp" (name 0) fault
      return 2
    | _, .error fault => do
      let _ ← complain "cmp" (name 1) fault
      return 2
    | .ok t, .ok u =>
      if t = u then return 0
      else
        let (position, line) := firstDifference 1 1 t u
        let shorter := if t.length < position then some (name 0, t)
          else if u.length < position then some (name 1, u) else none
        if !a.has 's' then
          match shorter with
          | none =>
            Run.put (name 0 ++ ' ' :: name 1 ++ " differ: char ".toList ++
              Raw.decimal position ++ ", line ".toList ++ Raw.decimal line ++ ['\n'])
          | some (n, []) => Run.say "cmp".toList ("EOF on ".toList ++ n ++ " which is empty".toList)
          | some (n, _) =>
            Run.say "cmp".toList ("EOF on ".toList ++ n ++ " after byte ".toList ++
              Raw.decimal (position - 1 : Nat) ++ ", in line ".toList ++ Raw.decimal line)
        return 1

end Retint.Shell.Tool
