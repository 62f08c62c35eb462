import Retint.Shell.Condition
import Retint.Shell.Expand
import Retint.Shell.Print

/-!
# Built-in commands

The commands that a shell carries out itself, those that run other commands aside.

## Main definitions

* `Builtin.isSpecial` — the commands whose errors end a script
* `Builtin.declare`, `unset`, `set`, `shift`, `localize` — variables, options and arguments
* `Builtin.readLine`, `getopts` — taking a line and arguments apart
* `Builtin.leave`, `giveBack`, `exit` — leaving loops, functions and the script
* `Builtin.command?` — the built-in command with a name

## Implementation notes

Errors are reported in the name of the command, which the process knows.
-/

namespace Retint.Shell.Builtin

variable {m : Type → Type} [Monad m]

/-- The commands whose errors end a script, and before which assignments stay in force. -/
def special : List Text :=
  [".", ":", "break", "continue", "eval", "exec", "exit", "export", "readonly", "return", "set",
    "shift", "times", "trap", "unset", "local"].map String.toList

def isSpecial (name : Text) : Bool := special.contains name

/-- The commands whose arguments can be assignments, which are not split. -/
def declarations : List Text := ["export", "readonly", "local"].map String.toList

/-! ### Arguments -/

/-- A number as an argument. -/
def number (t : Text) : Run m Nat := do
  match Raw.natural? t with
  | some n => return n
  | none => Run.abort ("Illegal number: ".toList ++ t)

/-- The options among arguments, and the arguments after them. The first answer has the letters
that were found. -/
def options (allowed : Text) : List Text → Run m (Text × List Text)
  | ('-' :: c :: letters) :: rest => do
    if c = '-' ∧ letters = [] then return ([], rest)
    else
      match (c :: letters).find? (· ∉ allowed) with
      | some bad => Run.abort ("Illegal option -".toList ++ [bad])
      | none => do
        let (found, operands) ← options allowed rest
        return (c :: letters ++ found, operands)
  | operands => return ([], operands)

/-- A value in quotes, so that reading it gives the value again. -/
def quote (t : Text) : Text :=
  let parts := Text.splitOn '\'' t
  Text.joinWith "\"'\"".toList (parts.map fun p => '\'' :: p ++ ['\''])

/-! ### Variables -/

/-- A variable as the shell shows it. -/
def shown (lead : Text) (entry : Text × Variable) : Text :=
  lead ++ entry.1 ++ (match entry.2.value with
    | some v => '=' :: quote v
    | none => []) ++ ['\n']

/-- Shows variables that have a property. -/
def showAll (lead : String) (p : Variable → Bool) : Run m Unit := do
  let entries := ((← Run.process).bindings.entries.filter fun e => p e.2).mergeSort
    fun a b => Text.le a.1 b.1
  Run.put (entries.flatMap (shown lead.toList))

def checkName (name : Text) : Run m Unit := do
  if Raw.isName name then pure ()
  else Run.abort (name ++ ": bad variable name".toList)

/-- Gives variables a mark, and a value where there is one. -/
def declare (lead : String) (mark : Variable → Variable) (p : Variable → Bool)
    (arguments : List Text) : Run m Nat := do
  let (_, operands) ← options ['p'] arguments
  if operands.isEmpty then showAll lead p
  operands.forM fun a => do
    let (name, value) := match Text.cut? '=' a with
      | some (name, value) => (name, some value)
      | none => (a, none)
    checkName name
    if let some value := value then assign name value
    Run.modifyProcess fun p =>
      let old := (p.bindings.get? name).getD { value := none }
      { p with bindings := p.bindings.insert name (mark old) }
  return 0

def unset (arguments : List Text) : Run m Nat := do
  let (letters, names) ← options ['f', 'v'] arguments
  names.forM fun name => do
    if 'f' ∈ letters then
      Run.modifyProcess fun p => { p with functions := p.functions.erase name }
    else
      checkName name
      let p ← Run.process
      match p.bindings.get? name with
      | some { isFixed := true, .. } => Run.abort (name ++ ": is read only".toList)
      | _ => Run.modifyProcess fun p => { p with bindings := p.bindings.erase name }
  return 0

/-- Makes variables local to a function, maybe with a value. -/
def localize (arguments : List Text) : Run m Nat := do
  if (← Run.process).hidden.isEmpty then Run.abort "not in a function".toList
  arguments.forM fun a => do
    let name := a.takeWhile (· != '=')
    checkName name
    Run.modifyProcess fun p =>
      match p.hidden with
      | frame :: outer => { p with hidden := ((name, p.bindings.get? name) :: frame) :: outer }
      | [] => p
    if let some (_, value) := Text.cut? '=' a then assign name value
  return 0

/-! ### Options and arguments -/

/-- The options by their names. -/
def optionNames : List (Text × Char) :=
  [("errexit", 'e'), ("noglob", 'f'), ("ignoreeof", 'I'), ("interactive", 'i'), ("monitor", 'm'),
    ("noexec", 'n'), ("stdin", 's'), ("xtrace", 'x'), ("verbose", 'v'), ("vi", 'V'),
    ("emacs", 'E'), ("noclobber", 'C'), ("allexport", 'a'), ("notify", 'b'),
    ("nounset", 'u'), ("privileged", 'p'), ("nolog", 'L'), ("debug", 'D')].map fun (name, c) =>
      (name.toList, c)

/-- Turns an option on or off. -/
def turn (on : Bool) (letter : Char) : Run m Unit := do
  if letter ∉ optionOrder then
    Run.abort ("Illegal option ".toList ++ [if on then '-' else '+', letter])
  Run.modifyProcess fun p =>
    let others := p.options.filter (· != letter)
    { p with options := if on then letter :: others else others }

/-- Shows all options. -/
def showOptions (asCommands : Bool) : Run m Unit := do
  let set := (← Run.process).options
  if asCommands then
    Run.put (optionNames.flatMap fun (name, c) =>
      "set ".toList ++ (if c ∈ set then "-o ".toList else "+o ".toList) ++ name ++ ['\n'])
  else
    Run.put ("Current option settings\n".toList ++ optionNames.flatMap fun (name, c) =>
      Raw.padRight 16 name ++ (if c ∈ set then "on\n".toList else "off\n".toList))

/-- Turns the option with a name on or off. -/
def turnNamed (on : Bool) (name : Text) : Run m Unit := do
  match optionNames.lookup name with
  | some c => turn on c
  | none => Run.abort ("Illegal option ".toList ++ (if on then '-' else '+') :: "o ".toList ++ name)

/-- Turns options on or off by their letters, of which an `o` takes a name from the arguments. The
answer has the arguments that are left. -/
def turnAll (on : Bool) : Text → List Text → Run m (List Text)
  | [], rest => return rest
  | 'o' :: letters, [] => do
    showOptions !on
    turnAll on letters []
  | 'o' :: letters, name :: rest => do
    turnNamed on name
    turnAll on letters rest
  | letter :: letters, rest => do
    turn on letter
    turnAll on letters rest

/-- Reads options for the shell itself; the answer has the arguments after them, if something says
that there are some. The number bounds the number of the arguments. -/
def readOptions : Nat → List Text → Run m (Option (List Text))
  | 0, _ | _, [] => return none
  | n + 1, a :: rest => do
    match a with
    | ['-', '-'] => return some rest
    | ['-'] => do
      turn false 'x'
      turn false 'v'
      return if rest.isEmpty then none else some rest
    | '-' :: letters => readOptions n (← turnAll true letters rest)
    | '+' :: letters => readOptions n (← turnAll false letters rest)
    | _ => return some (a :: rest)

def set (arguments : List Text) : Run m Nat := do
  if arguments.isEmpty then showAll "" fun v => v.value.isSome
  else
    match ← readOptions arguments.length arguments with
    | some operands =>
      Run.modifyProcess fun p => { p with arguments := operands, optionOffset := none }
    | none => pure ()
  return 0

def shift (arguments : List Text) : Run m Nat := do
  let n ← match arguments with
    | a :: _ => number a
    | [] => pure 1
  let p ← Run.process
  if p.arguments.length < n then Run.abort "can't shift that many".toList
  Run.modifyProcess fun p => { p with arguments := p.arguments.drop n, optionOffset := none }
  return 0

/-! ### Reading lines -/

/-- The characters of a line, marked where a backslash takes their meaning away, the number of
characters that are used up, and whether the line is ended. -/
def takeLine (isRaw : Bool) : Text → Glob.Marked × Nat × Bool
  | [] => ([], 0, false)
  | '\n' :: _ => ([], 1, true)
  | '\\' :: c :: rest =>
    if isRaw then
      let (line, n, isEnded) := takeLine isRaw (c :: rest)
      (('\\', false) :: line, n + 1, isEnded)
    else
      let (line, n, isEnded) := takeLine isRaw rest
      (if c = '\n' then line else (c, true) :: line, n + 2, isEnded)
  | c :: rest =>
    let (line, n, isEnded) := takeLine isRaw rest
    (if c = '\\' ∧ !isRaw ∨ c = Char.ofNat 0 then line else (c, false) :: line, n + 1, isEnded)

/-- Reads a line into variables, of which the last one takes the rest. -/
def readLine (arguments : List Text) : Run m Nat := do
  let (isRaw, names) ← match arguments with
    | ['-', 'p'] :: prompt :: rest => do
      Run.write 2 prompt
      pure (false, rest)
    | arguments => do
      let (letters, names) ← options ['r'] arguments
      pure ('r' ∈ letters, names)
  if names.isEmpty then
    Run.report "arg count".toList
    return 2
  let (line, n, isEnded) := takeLine isRaw (← Run.peekInput)
  Run.useInput n 1
  let separators := (← Run.process).separators
  let loose (c : Char × Bool) : Bool := !c.2 && isLoose separators c.1
  let values := readFields separators names.length (line.dropWhile loose)
  (names.zip (values ++ List.replicate names.length [])).forM fun (name, value) => do
    checkName name
    assign name value
  return if isEnded then 0 else 1

/-- Whether an option has a value, if it is one of those that are allowed. -/
def hasValue? (allowed : Text) (letter : Char) : Option Bool :=
  match allowed.dropWhile (· != letter) with
  | _ :: rest => if letter = ':' then none else some (rest.head? == some ':')
  | [] => none

/-- Looks at the next option of the arguments. The variable gets its letter. -/
def getopts (arguments : List Text) : Run m Nat := do
  match arguments with
  | allowed :: name :: given => do
    let p ← Run.process
    let words := if given.isEmpty then p.arguments else given
    let index := max 1 (((← Run.valueOf? "OPTIND".toList).bind Raw.natural?).getD 1)
    let isSilent := allowed.head? = some ':'
    let current := if index ≤ 1 then none else words[index - 2]?
    let left := match p.optionOffset, current with
      | some n, some w => w.drop n
      | _, _ => []
    let (left, next) := if !left.isEmpty then (left, index - 1)
      else
        match words[index - 1]? with
        | some ('-' :: c :: rest) => (c :: rest, index)
        | _ => ([], index - 1)
    let isDone := left.isEmpty || left = ['-'] && p.optionOffset.isNone
    let finish (letter : Char) (next : Nat) (offset : Option Nat) : Run m Unit := do
      assign "OPTIND".toList (Raw.decimal (next + 1 : Nat))
      assign name [letter]
      Run.modifyProcess fun p => { p with optionOffset := offset }
    match left with
    | c :: rest =>
      if isDone then
        finish '?' next none
        return 1
      else
        let offset := if rest.isEmpty then none
          else (words[next - 1]?).map fun w => w.length - rest.length
        let drop := Run.modifyProcess fun p =>
          { p with bindings := p.bindings.erase "OPTARG".toList }
        match hasValue? allowed c with
        | none => do
          if isSilent then assign "OPTARG".toList [c]
          else
            Run.write 2 ("Illegal option -".toList ++ [c, '\n'])
            drop
          finish '?' next offset
        | some false => do
          assign "OPTARG".toList []
          finish c next offset
        | some true =>
          if !rest.isEmpty then
            assign "OPTARG".toList rest
            finish c next none
          else
            match words[next]? with
            | some value => do
              assign "OPTARG".toList value
              finish c (next + 1) none
            | none => do
              if isSilent then
                assign "OPTARG".toList [c]
                finish ':' next none
              else
                Run.write 2 ("No arg for -".toList ++ [c] ++ " option\n".toList)
                drop
                finish '?' next none
        return 0
    | [] => do
      finish '?' next none
      return 1
  | _ => do
    Run.report "Usage: getopts optstring var [arg]".toList
    return 2

/-! ### Leaving -/

/-- Leaves loops, or goes on with the next round of one. -/
def leave (goesOn : Bool) (arguments : List Text) : Run m Nat := do
  let n ← match arguments with
    | a :: _ => number a
    | [] => pure 1
  if n = 0 then Run.abort ("Illegal number: ".toList ++ arguments.headD [])
  let loops := (← Run.process).loops
  if loops = 0 then return 0
  Run.setStatus 0
  throw (if goesOn then .again (min n loops - 1) else .leave (min n loops))

/-- Leaves a function or a file of commands. -/
def giveBack (arguments : List Text) : Run m Nat := do
  let n ← match arguments with
    | a :: _ => number a
    | [] => Run.status
  Run.setStatus n
  throw .back

def exit (arguments : List Text) : Run m Nat := do
  match arguments with
  | a :: _ => do
    let n ← number a
    throw (.over (some (n % 256)))
  | [] => throw (.over none)

/-! ### Signals -/

/-- The signals that have a name here. -/
def signals : List (Nat × Text) :=
  [(0, "EXIT"), (1, "HUP"), (2, "INT"), (3, "QUIT"), (4, "ILL"), (5, "TRAP"), (6, "ABRT"),
    (7, "BUS"), (8, "FPE"), (9, "KILL"), (10, "USR1"), (11, "SEGV"), (12, "USR2"), (13, "PIPE"),
    (14, "ALRM"), (15, "TERM"), (17, "CHLD"), (18, "CONT"), (19, "STOP"), (20, "TSTP"),
    (21, "TTIN"), (22, "TTOU"), (23, "URG"), (24, "XCPU"), (25, "XFSZ"), (28, "WINCH")].map
      fun (n, name) => (n, name.toList)

/-- The name of the signal that a name or a number means. -/
def signal? (t : Text) : Option Text :=
  match Raw.natural? t with
  | some n => signals.lookup n
  | none =>
    let upper := t.map Char.toUpper
    let bare := (Text.dropLead? "SIG".toList upper).getD upper
    (signals.find? (·.2 = bare)).map Prod.snd

/-- Says what is to be run on signals. -/
def trap (arguments : List Text) : Run m Nat := do
  let (_, operands) ← options [] arguments
  match operands with
  | [] => do
    let traps := (← Run.process).traps
    let ordered := signals.filterMap fun (_, name) => (traps.get? name).map fun t => (name, t)
    Run.put (ordered.flatMap fun (name, t) =>
      "trap -- ".toList ++ quote t ++ ' ' :: name ++ ['\n'])
    return 0
  | a :: rest => do
    let (action, names) := if rest.isEmpty || (Raw.natural? a).isSome then (none, operands)
      else (if a = ['-'] then none else some a, rest)
    match names.find? fun n => (signal? n).isNone with
    | some bad => do
      Run.write 2 ("trap: ".toList ++ bad ++ ": bad trap\n".toList)
      return 1
    | none => do
      (names.filterMap signal?).forM fun name =>
        Run.modifyProcess fun p => { p with
          traps := match action with
            | some t => p.traps.insert name t
            | none => p.traps.erase name }
      return 0

/-- The number of a signal by its name. -/
def signalNumber (name : Text) : Nat := ((signals.find? (·.2 = name)).map Prod.fst).getD 0

/-- Sends a signal. Only the script itself can be reached. -/
def kill (arguments : List Text) : Run m Nat := do
  let (name, targets) := match arguments with
    | ['-', 's'] :: name :: rest => (name, rest)
    | ('-' :: name) :: rest => if name = ['-'] then ("TERM".toList, rest) else (name, rest)
    | rest => ("TERM".toList, rest)
  match signal? name, targets with
  | _, [] => do
    Run.report ("Usage: kill [-s sigspec | -signum | -sigspec] [pid | job]... or\n" ++
      "kill -l [exitstatus]").toList
    return 2
  | none, _ => Run.abort ("invalid signal number or name: ".toList ++ name)
  | some signal, _ =>
    targets.foldlM (fun status target => do
      if target = processNumber then
        if signal = "KILL".toList then throw (.killed (signalNumber signal))
        else
          if signal ≠ "EXIT".toList then
            Run.modifyProcess fun p => { p with signals := signal :: p.signals }
          return status
      else if target = backgroundNumber then return status
      else
        Run.report "No such process\n".toList
        return 1) 0

/-! ### Directories -/

/-- The components of a path with the dots resolved, the last one first. -/
def resolveDots : List Text → List Text → List Text
  | found, [] => found
  | found, part :: rest =>
    if part = [] ∨ part = ['.'] then resolveDots found rest
    else if part = ['.', '.'] then resolveDots found.tail rest
    else resolveDots (part :: found) rest

/-- A path seen from a directory, without dots. -/
def pathFrom (directory name : Text) : Text :=
  let full := if name.head? = some '/' then name else directory ++ '/' :: name
  '/' :: Text.joinWith ['/'] (resolveDots [] (Text.splitOn '/' full)).reverse

def changeDirectory (arguments : List Text) : Run m Nat := do
  let (_, operands) ← options ['L', 'P'] arguments
  let known (name : String) : Run m Text := do
    return (← Run.valueOf? name.toList).getD []
  let target ← match operands with
    | [] => known "HOME"
    | ['-'] :: _ => known "OLDPWD"
    | t :: _ => pure t
  let old := (← Run.process).directory
  let new := if target.isEmpty then old else pathFrom old target
  match ← Run.kindOf new with
  | .ok .directory => do
    Run.modifyProcess fun p => { p with directory := new }
    assignExported "OLDPWD".toList old
    assignExported "PWD".toList new
    if operands.head? = some ['-'] then Run.put (new ++ ['\n'])
    return 0
  | _ => do
    Run.report ("can't cd to ".toList ++ target)
    return 2

/-! ### The commands -/

/-- The words that are part of the language. -/
def isKeyword (name : Text) : Bool :=
  ["!", "\x7b", "\x7d", "case", "do", "done", "elif", "else", "esac", "fi", "for", "if", "in",
    "then", "until", "while"].any (·.toList = name)

/-- A command that does nothing but print. -/
def saying (t : String) : Run m Nat := do
  Run.put t.toList
  return 0

/-- The built-in command with a name, unless it runs other commands. -/
def command? (name : Text) : Option (List Text → Run m Nat) :=
  match String.ofList name with
  | ":" | "true" | "hash" | "alias" | "unalias" | "jobs" => some fun _ => return 0
  | "false" => some fun _ => return 1
  | "echo" => some fun a => do
    Run.put (Print.echo a)
    return 0
  | "printf" => some fun a => do
    let (_, operands) ← options [] a
    Print.printf Run.report operands
  | "test" | "[" => some (Condition.test Run.report name)
  | "break" => some (leave false)
  | "continue" => some (leave true)
  | "return" => some giveBack
  | "exit" => some exit
  | "export" => some (declare "export " (fun v => { v with isExported := true }) (·.isExported))
  | "readonly" => some (declare "readonly " (fun v => { v with isFixed := true }) (·.isFixed))
  | "local" => some localize
  | "unset" => some unset
  | "set" => some set
  | "shift" => some shift
  | "read" => some readLine
  | "getopts" => some getopts
  | "trap" => some trap
  | "kill" => some kill
  | "cd" | "chdir" => some changeDirectory
  | "pwd" => some fun _ => do
    Run.put ((← Run.process).directory ++ ['\n'])
    return 0
  | "wait" => some fun a => do
    let p ← Run.process
    return if a.isEmpty then 0 else p.background.getD 127
  | "umask" => some fun a => if a.isEmpty then saying "0022\n" else return 0
  | "ulimit" => some fun _ => saying "unlimited\n"
  | "times" => some fun _ =>
    saying "0m0.000000s 0m0.000000s\n0m0.000000s 0m0.000000s\n"
  | _ => none

/-- The names of the built-in commands that run other commands. -/
def runners : List Text := [".", "command", "eval", "exec", "type"].map String.toList

/-- Whether a name is that of a built-in command. -/
def isBuiltin (name : Text) : Bool :=
  runners.contains name || (command? (m := Id) name).isSome

end Retint.Shell.Builtin
