import Retint.Shell.Awk.Run
import Retint.Shell.Builtin
import Retint.Shell.Program

/-!
# Tools that run programs

Tools whose arguments are a program with its own arguments.

## Main definitions

* `Tool.env`, `Tool.xargs`, `Tool.find` — with other variables, for the words of the input, and for
  files
* `Tool.launcher?` — the tool of this kind with a name
-/

namespace Retint.Shell.Tool

variable {m : Type → Type} [Monad m]

/-- Starts a program for a tool, which tells of it if that does not work. -/
def startFor (tool : String) (isQuoted : Bool) (start : Starter m) (command : List Text) :
    Run m Nat := do
  match ← start command with
  | .ok status => return status
  | .error fault => do
    let name := command.headD []
    let _ ← complain tool (if isQuoted then quoted name else name) fault
    return if fault = .notFound then 127 else 126

/-! ### Other variables -/

/-- The variables that arguments ask for, and the arguments after them. -/
def settings : Dict Variable → List Text → Dict Variable × List Text
  | vs, a :: rest =>
    match Text.cut? '=' a with
    | some (name, value) =>
      settings (vs.insert name { value := some value, isExported := true }) rest
    | none => (vs, a :: rest)
  | vs, [] => (vs, [])

def env (start : Starter m) : Tool m := fun arguments => do
  match (Usage.of "i0v" "uC" [("ignore-environment", 'i'), ("unset", 'u')]).readStrict
      (if arguments.head? = some ['-'] then "-i".toList :: arguments.tail else arguments) with
  | .error message => do
    misuse "env" message
    return 125
  | .ok a => do
    let old := (← Run.process).bindings
    let kept := if a.has 'i' then .empty else (a.values 'u').foldl Dict.erase old
    let (new, command) := settings kept a.operands
    Run.ensuring (do
      Run.modifyProcess fun p => { p with bindings := new }
      if command.isEmpty then printenv [] else startFor "env" true start command)
      (Run.modifyProcess fun p => { p with bindings := old })

/-- A program after a number of arguments of its tool. -/
def after (tool : String) (count : Nat) (start : Starter m) : Tool m := fun arguments => do
  match (Usage.of "fp" "nks" []).readStrict arguments with
  | .error message => do
    misuse tool message
    return 125
  | .ok a => do
    if a.operands.length ≤ count then
      misuse tool "missing operand".toList
      return 125
    else startFor tool true start (a.operands.drop count)

/-- Says where programs are. -/
def which : Tool m := fun arguments =>
  arguments.foldlM (fun status name => do
    match ← Program.locate? name with
    | .ok path =>
      match ← Program.check path with
      | .ok () => do
        Run.put (path ++ ['\n'])
        return status
      | .error _ => return 1
    | .error _ => return 1) 0

/-! ### The words of the input -/

/-- The quote that is left open when a line or a text ends, and what follows. -/
def openQuote? : Option Char → Text → Option (Char × Text)
  | q, [] => q.map (·, [])
  | none, '\\' :: _ :: rest => openQuote? none rest
  | none, c :: rest => openQuote? (if c = '\'' ∨ c = '"' then some c else none) rest
  | some q, c :: rest =>
    if c = '\n' then some (q, rest) else openQuote? (if c = q then none else some q) rest

/-- The words of a text, in which quotes and backslashes have a meaning. The current word is held
in reverse. -/
def inputWords : Option Text → Option Char → Text → List Text
  | none, _, [] => []
  | some w, _, [] => [w.reverse]
  | w, some q, c :: rest =>
    if c = q then inputWords w none rest else inputWords (some (c :: w.getD [])) (some q) rest
  | w, none, '\\' :: c :: rest => inputWords (some (c :: w.getD [])) none rest
  | w, none, c :: rest =>
    if c = '\'' ∨ c = '"' then inputWords (some (w.getD [])) (some c) rest
    else if Raw.isBlank c ∨ c = '\n' then
      match w with
      | some w => w.reverse :: inputWords none none rest
      | none => inputWords none none rest
    else inputWords (some (c :: w.getD [])) none rest

/-- A list in groups of so many members. -/
def groups {α : Type} (size : Nat) : Nat → List α → List (List α)
  | 0, _ | _, [] => []
  | fuel + 1, as => as.take size :: groups size fuel (as.drop size)

/-- What several runs come to. -/
def combined (statuses : List Nat) : Nat :=
  if statuses.any (· == 127) then 127
  else if statuses.any (· == 126) then 126
  else if statuses.any (· != 0) then 123
  else 0

def xargs (start : Starter m) : Tool m := fun arguments => do
  match (Usage.of "0rtpxo" "nLIPdsE" [("null", '0'), ("no-run-if-empty", 'r'), ("max-args", 'n'),
      ("max-lines", 'L'), ("replace", 'I'), ("delimiter", 'd'), ("verbose", 't'),
      ("max-procs", 'P')]).readStrict arguments with
  | .error message => do
    misuse "xargs" message
    return 1
  | .ok a => do
    let t ← Run.readInput
    let command := if a.operands.isEmpty then ["echo".toList] else a.operands
    let parted (c : Char) : List Text :=
      (match (Text.splitOn c t).reverse with
        | [] :: before => before
        | all => all).reverse
    let delimiter := if a.has '0' then some (Char.ofNat 0)
      else (a.value? 'd').bind fun d =>
        if d = "\\n".toList then some '\n' else if d = "\\0".toList then some (Char.ofNat 0)
        else d.head?
    let number (c : Char) : Option Nat := (a.value? c).bind Raw.natural?
    let mistake := if delimiter.isSome || a.has 'I' then none else openQuote? none t
    if let some (q, _) := mistake then
      let kind := if q = '"' then "double" else "single"
      Run.say "xargs".toList ("unmatched ".toList ++ kind.toList ++
        " quote; by default quotes are special to xargs unless you use the -0 option".toList)
    let commands : List (List Text) := match a.value? 'I' with
      | some mark =>
        let lines : List Text := match delimiter with
          | some c => parted c
          | none => ((Raw.bareLines t).map (List.dropWhile Raw.isBlank)).filter (!·.isEmpty)
        lines.map fun line => command.map (Text.replace mark line)
      | none =>
        let items : List Text := match delimiter with
          | some c => parted c
          | none =>
            match mistake with
            | some (_, rest) => (inputWords none none (t.take (t.length - rest.length))).dropLast
            | none => inputWords none none t
        let parts : List (List Text) := match number 'n', number 'L' with
          | some n, _ => groups (max 1 n) items.length items
          | none, some n => (groups (max 1 n) t.length (Raw.lines t)).map fun ls =>
            inputWords none none (List.flatten ls)
          | none, none => if items.isEmpty then [] else [items]
        if parts.isEmpty then if a.has 'r' || mistake.isSome then [] else [command]
        else parts.map (command ++ ·)
    let input ← Run.channelOf 0
    let quiet ← Run.addChannel .nowhere
    Run.connect 0 (some quiet)
    let statuses ← commands.mapM fun c => do
      if a.has 't' then Run.write 2 (Text.joinWith [' '] c ++ ['\n'])
      startFor "xargs" false start c
    Run.connect 0 input
    return if mistake.isSome then 1 else combined statuses

/-! ### Files that meet conditions -/

/-- What is asked of a file, and what is done with it. -/
inductive Wanted
  | name (pattern : List Glob.Item) (ignoresCase : Bool)
  | path (pattern : List Glob.Item)
  | kind (letter : Char)
  | nothingIn
  | print (ending : Char)
  /-- A program is run for the file, or later for all files together. -/
  | run (command : List Text) (isTogether : Bool)
  | delete
  | prune
  | const (b : Bool)
  | not (a : Wanted)
  | and (a b : Wanted)
  | or (a b : Wanted)

namespace Wanted

/-- Whether something is done with files, apart from passing them over. -/
def acts : Wanted → Bool
  | print _ | run .. | delete => true
  | not a => a.acts
  | and a b | or a b => a.acts || b.acts
  | _ => false

/-- The arguments that are left. -/
abbrev Reading := StateT (List Text) (Except Text)

def next? : Reading (Option Text) := do
  match ← get with
  | [] => return none
  | a :: rest => do
    set rest
    return some a

/-- The argument of a condition. -/
def argument (of : Text) : Reading Text := do
  match ← next? with
  | some a => return a
  | none => throw ("missing argument to `".toList ++ of ++ ['\''])

/-- A text as a pattern. -/
def pattern (t : Text) : List Glob.Item := Glob.ofMarked (t.map (·, true))

/-- The command that is to be run for a file. -/
def commandOf (of : Text) : Reading Wanted := do
  let rest ← get
  let inside := rest.takeWhile fun a => a != [';'] && a != ['+']
  match rest.drop inside.length with
  | [] => throw ("missing argument to `".toList ++ of ++ ['\''])
  | mark :: rest => do
    set rest
    return run inside (mark = ['+'])

mutual

/-- One condition. -/
def condition : Nat → Reading Wanted
  | 0 => return const true
  | fuel + 1 => do
    match ← next? with
    | none => return const true
    | some a =>
      match String.ofList a with
      | "!" | "-not" => do return not (← condition fuel)
      | "(" => do
        let b ← alternatives fuel
        match ← next? with
        | some [')'] => return b
        | _ => throw "invalid expression; expected to find a ')' but didn't see one.".toList
      | "-name" => do return name (pattern (← argument a)) false
      | "-iname" => do return name (pattern ((← argument a).map Char.toLower)) true
      | "-path" | "-wholename" => do return path (pattern (← argument a))
      | "-type" => do return kind ((← argument a).headD ' ')
      | "-empty" => return nothingIn
      | "-print" => return print '\n'
      | "-print0" => return print (Char.ofNat 0)
      | "-exec" => commandOf a
      | "-delete" => return delete
      | "-prune" => return prune
      | "-true" => return const true
      | "-false" => return const false
      | _ => throw ("unknown predicate `".toList ++ a ++ ['\''])

/-- Conditions all of which must hold. -/
def conjunction : Nat → Reading Wanted
  | 0 => return const true
  | fuel + 1 => do
    let a ← condition fuel
    match ← get with
    | [] => return a
    | b :: rest =>
      if b = ['-', 'o'] ∨ b = "-or".toList ∨ b = [')'] then return a
      else
        if b = ['-', 'a'] ∨ b = "-and".toList then set rest
        return and a (← conjunction fuel)

/-- Conditions one of which must hold. -/
def alternatives : Nat → Reading Wanted
  | 0 => return const true
  | fuel + 1 => do
    let a ← conjunction fuel
    match ← get with
    | b :: rest =>
      if b = ['-', 'o'] ∨ b = "-or".toList then
        set rest
        return or a (← alternatives fuel)
      else return a
    | [] => return a

end

/-- The conditions that arguments make. -/
def read (arguments : List Text) : Except Text Wanted := do
  if arguments.isEmpty then return print '\n'
  let (a, rest) ← (alternatives (4 * arguments.length + 4)).run arguments
  match rest with
  | [] => return if a.acts then a else and a (print '\n')
  | b :: _ => throw ("paths must precede expression: `".toList ++ b ++ ['\''])

/-- What has come of the files so far. -/
structure Found where
  isPruned : Bool := false
  /-- The files for commands that are run later, with the commands. -/
  later : List (List Text × Text) := []

/-- Going through files: a step of the script that remembers what has come of them. -/
abbrev Finding (m : Type → Type) := StateT Found (Run m)

/-- A step of the script on the way. -/
def step {α : Type} (r : Run m α) : Finding m α := StateT.lift r

/-- Whether a file meets conditions; what they say is done with it. -/
def holds (start : Starter m) (file : Text) (k : Kind) : Wanted → Finding m Bool
  | name p ignoresCase =>
    let n := nameOf file
    return Glob.isMatch p (if ignoresCase then n.map Char.toLower else n)
  | path p => return Glob.isMatch p file
  | kind letter => return match k with
    | .directory => letter == 'd'
    | .file .. => letter == 'f'
  | nothingIn => do
    match k with
    | .file size _ => return size = 0
    | .directory => do
      let p ← step (Run.pathOf file)
      return (← step (Run.onHost (·.list p))).toOption = some []
  | print ending => do
    step (Run.put (file ++ [ending]))
    return true
  | run command isTogether => do
    if isTogether then
      modify fun f => { f with later := (command, file) :: f.later }
      return true
    else
      let full := command.map (Text.replace ['\x7b', '\x7d'] file)
      return (← step (startFor "find" true start full)) = 0
  | delete => do
    let p ← step (Run.pathOf file)
    return (← step (Run.onHost (·.remove p))).toOption.isSome
  | prune => do
    modify fun f => { f with isPruned := true }
    return true
  | const b => return b
  | not a => do return !(← holds start file k a)
  | and a b => do
    if ← holds start file k a then holds start file k b else return false
  | or a b => do
    if ← holds start file k a then return true else holds start file k b

end Wanted

/-- Goes through a file and what is in it, from a depth on. -/
def findFrom (start : Starter m) (w : Wanted) (least most : Nat) :
    Nat → Nat → Text → Wanted.Finding m Unit
  | 0, _, _ => return
  | fuel + 1, depth, file => do
    match ← Wanted.step (Run.kindOf file) with
    | .error _ => return
    | .ok kind => do
      modify fun f => { f with isPruned := false }
      if least ≤ depth then
        let _ ← w.holds start file kind
      if kind = .directory ∧ depth < most ∧ !(← get).isPruned then
        let p ← Wanted.step (Run.pathOf file)
        let names := ((← Wanted.step (Run.onHost (·.list p))).toOption.getD []).map Raw.ofText
        (names.mergeSort Text.le).forM fun n =>
          findFrom start w least most fuel (depth + 1)
            (if file.getLast? = some '/' then file ++ n else file ++ '/' :: n)

/-- Takes an option with a number out of arguments. -/
def takeNumber (name : String) : List Text → Option Nat × List Text
  | a :: b :: rest =>
    if a = name.toList then (Raw.natural? b, (takeNumber name rest).2)
    else ((takeNumber name (b :: rest)).1, a :: (takeNumber name (b :: rest)).2)
  | rest => (none, rest)

def find (start : Starter m) : Tool m := fun arguments => do
  let isStart (a : Text) : Bool :=
    match a with
    | '-' :: _ => false
    | ['('] | ['!'] => false
    | _ => true
  let roots := arguments.takeWhile isStart
  let (most, rest) := takeNumber "-maxdepth" (arguments.drop roots.length)
  let (least, rest) := takeNumber "-mindepth" rest
  match Wanted.read rest with
  | .error message => do
    Run.say "find".toList message
    return 1
  | .ok w => do
    let roots := if roots.isEmpty then [['.']] else roots
    let all : Wanted.Finding m Nat := roots.foldlM (fun status root => do
      match ← Wanted.step (Run.kindOf root) with
      | .ok _ => do
        findFrom start w (least.getD 0) (most.getD copyDepth) copyDepth 0 root
        return status
      | .error fault => do
        let _ ← Wanted.step (complain "find" (quoted root) fault)
        return 1) 0
    let (status, found) ← all.run {}
    let commands := (found.later.map Prod.fst).eraseDups
    commands.forM fun c => do
      let files := (found.later.filter (·.1 = c)).map Prod.snd
      let _ ← startFor "find" true start
        (c.flatMap fun a => if a = ['\x7b', '\x7d'] then files.reverse else [a])
    return status

/-! ### The table -/

/-- The tool with a name that runs other programs. -/
def launcher? (start : Starter m) (name : Text) : Option (Tool m) :=
  match String.ofList name with
  | "awk" | "mawk" | "nawk" => some (Awk.run name start)
  | "env" => some (env start)
  | "find" => some (find start)
  | "nice" | "nohup" => some (after "nice" 0 start)
  | "timeout" => some (after "timeout" 1 start)
  | "which" => some which
  | "xargs" => some (xargs start)
  | _ => none

end Retint.Shell.Tool
