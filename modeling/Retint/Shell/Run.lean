import Retint.Shell.Reader
import Retint.Shell.Redirect
import Retint.Shell.Tool.Launch

/-!
# Running shell scripts

A script is run command by command: words are replaced by what they stand for, streams are made to
lead where they should, and then a function, a built-in command or a program is called. Whether a
failure ends the script depends on whether something else looks at the status.

## Main definitions

* `Shell.execute` — running a command
* `Shell.runText` — running the commands of a text
* `Shell.launch` — running a program
* `Shell.Outcome`, `Shell.run` — running a program from start to end

## Implementation notes

A first argument of type `Nat` bounds the number of steps. It is only there because a script can
run for ever; `run` starts with more steps than any script that ends will take. A process that is a
copy of another one runs to its end before the other one goes on, so that the commands of a pipeline
run one after the other.
-/

namespace Retint.Shell

variable {m : Type → Type} [Monad m]

/-! ### Control -/

/-- What has become of the body of a loop. -/
inductive Flow
  | done | left | again
deriving DecidableEq, Repr

/-- A step as the body of a loop. -/
def inLoop (body : Run m Unit) : Run m Flow := do
  try
    body
    return .done
  catch e =>
    match e with
    | .leave n => if n ≤ 1 then return .left else throw (.leave (n - 1))
    | .again 0 => return .again
    | .again (n + 1) => throw (.again n)
    | e => throw e

/-- A step that can be left by giving back a status. -/
def inCall (body : Run m Unit) : Run m Unit := do
  try
    body
  catch e =>
    match e with
    | .back => return
    | e => throw e

/-- A step of a process of its own, and the status that it asks for. -/
def inProcess (body : Run m Unit) : Run m (Option Nat) := do
  try
    body
    return none
  catch e =>
    match e with
    | .killed n => throw (.killed n)
    | .over status => return status
    | _ => return none

/-- The status of a process, also of one that has been ended by a signal. -/
def reaped (body : Run m Nat) : Run m Nat := do
  try
    body
  catch e =>
    match e with
    | .killed n => return 128 + n
    | e => throw e

/-- Ends the script if the last command failed and nothing looks at its status. -/
def checkStatus (tested : Bool) : Run m Unit := do
  let p ← Run.process
  if !tested && p.status != 0 && 'e' ∈ p.options then throw (.over none)

/-- Gives variables their values one after the other, so that a value can refer to one before
it. -/
def assignAll (values : List (Text × Run m Text)) : Run m (List (Text × Text)) :=
  values.mapM fun (name, value) => do
    let t ← value
    assign name t
    return (name, t)

/-- A step with some variables set, which are as before afterwards. -/
def withVariables {α : Type} (values : List (Text × Run m Text))
    (body : List (Text × Text) → Run m α) : Run m α := do
  let p ← Run.process
  let saved := values.map fun (name, _) => (name, p.bindings.get? name)
  Run.ensuring (do
    let assigned ← assignAll values
    assigned.forM fun (name, t) =>
      let v : Variable := { value := some t, isExported := true }
      Run.modifyProcess fun p => { p with bindings := p.bindings.insert name v }
    body assigned) (Run.modifyProcess fun p =>
      { p with bindings := saved.foldl restore p.bindings })
where
  /-- Puts a variable back. -/
  restore (vs : Dict Variable) : Text × Option Variable → Dict Variable
    | (name, some v) => vs.insert name v
    | (name, none) => vs.erase name

/-- Shows a command before it is run. -/
def trace (values : List (Text × Text)) (words : List Text) : Run m Unit := do
  if ← Run.hasOption 'x' then
    let lead := (← Run.valueOf? "PS4".toList).getD "+ ".toList
    let all := values.map (fun (name, value) => name ++ '=' :: value) ++ words
    if !all.isEmpty then Run.write 2 (lead ++ Text.joinWith [' '] all ++ ['\n'])

/-! ### Words -/

/-- What the words of a command stand for. The arguments of a declaration can be assignments, which
are not split. -/
def expandWords (catching : Command → Run m Text) (fuel : Nat) :
    List Text → List Word → Run m (List Text)
  | found, [] => return found
  | found, w :: rest => do
    let isDeclaration := Builtin.declarations.contains (found.headD [])
    let fields ← match if isDeclaration then Reader.assignment? w else none with
      | some (name, value) => do pure [name ++ '=' :: (← expandJoined catching fuel value)]
      | none => expandFields catching fuel w
    expandWords catching fuel (found ++ fields) rest

/-- What a name means to a shell. -/
def meaning (name : Text) : Run m (Option Text) := do
  let p ← Run.process
  if Builtin.isKeyword name then return some "a shell keyword".toList
  else if (p.functions.get? name).isSome then return some "a shell function".toList
  else if Builtin.isBuiltin name then
    return some (if Builtin.isSpecial name && name != "local".toList
      then "a special shell builtin" else "a shell builtin").toList
  else
    match ← Program.locate? name with
    | .ok path =>
      return if (← Program.check path).toOption.isSome then some path else none
    | .error _ => return none

/-- Says what a name means; in short form, its path or itself. -/
def tellMeaning (inShort : Bool) (name : Text) : Run m Nat := do
  match ← meaning name with
  | some t => do
    let isPath := '/' ∈ t
    if inShort then Run.put ((if isPath then t else name) ++ ['\n'])
    else Run.put (name ++ " is ".toList ++ t ++ ['\n'])
    return 0
  | none => do
    if !inShort then Run.put (name ++ ": not found\n".toList)
    return 127

/-- The file of commands with a name. -/
def findFile (name : Text) : List Text → Run m (Option Text)
  | [] => return none
  | dir :: rest => do
    let path := if dir.isEmpty then name else dir ++ '/' :: name
    match ← Run.kindOf path with
    | .ok (.file ..) => return some path
    | _ => findFile name rest

/-! ### Shells -/

/-- What a shell is called with. -/
structure Call where
  options : Text := []
  /-- The commands themselves, rather than the name of a file with them. -/
  hasCommands : Bool := false
  operands : List Text := []

/-- A call with more options before the others. -/
def Call.add (call : Call) (letters : Text) : Call :=
  { call with
    options := letters.filter (fun c => c != 'c' && c != 'o') ++ call.options
    hasCommands := call.hasCommands || 'c' ∈ letters }

/-- Reads the arguments of a shell. First comes the name of an option if one is awaited. -/
def Call.read : Bool → List Text → Except Text Call
  | _, [] => .ok {}
  | true, name :: rest =>
    match Builtin.optionNames.lookup name with
    | some c => (Call.read false rest).map (·.add [c])
    | none => .error ("Illegal option -o ".toList ++ name)
  | false, a :: rest =>
    match a with
    | ['-', '-'] | ['-'] => .ok { operands := rest }
    | '-' :: letters =>
      match letters.find? fun c => c ∉ 'c' :: 'o' :: Builtin.optionNames.map Prod.snd with
      | some c => .error ("Illegal option -".toList ++ [c])
      | none => (Call.read ('o' ∈ letters) rest).map (·.add letters)
    | '+' :: _ => Call.read false rest
    | a => .ok { operands := a :: rest }

/-- The process of a shell that has been called. -/
def Process.called (p : Process) (name : Text) (arguments : List Text) (options : Text) :
    Process where
  name := name
  arguments := arguments
  bindings := ⟨(p.bindings.entries.filter (·.2.isExported)).map fun (n, v) =>
    (n, { v with isFixed := false })⟩
  streams := p.streams
  directory := p.directory
  options := options

/-! ### Commands -/

mutual

/-- Runs a command. If its status is tested, its failure does not end the script. -/
def execute : Nat → Bool → Command → Run m Unit
  | 0, _, _ => Run.giveUp
  | _ + 1, _, .skip => return
  | fuel + 1, tested, .simple line assignments words redirections => do
    simple fuel tested line assignments words redirections
    signals fuel
    checkStatus tested
  | fuel + 1, tested, .redirected line body redirections => do
    Run.modifyProcess fun p => { p with line := line }
    keepingStreams do
      if ← redirectAll (catching fuel) fuel redirections then execute fuel tested body
      else Run.setStatus 2
  | fuel + 1, tested, .sequence first second => do
    execute fuel tested first
    execute fuel tested second
  | fuel + 1, tested, .both first second => do
    execute fuel true first
    if (← Run.status) = 0 then execute fuel tested second
  | fuel + 1, tested, .either first second => do
    execute fuel true first
    if (← Run.status) ≠ 0 then execute fuel tested second
  | fuel + 1, _, .negation body => do
    execute fuel true body
    Run.setStatus (if (← Run.status) = 0 then 1 else 0)
  | fuel + 1, _, .background body => do
    let n ← copied fuel do
      Run.connect 0 (some (← Run.addChannel .nowhere))
      execute fuel false body
    Run.modifyProcess fun p => { p with background := some n, status := 0 }
  | fuel + 1, tested, .pipeline commands => do
    pipe fuel tested none commands
    checkStatus tested
  | fuel + 1, tested, .subshell line body redirections => do
    Run.modifyProcess fun p => { p with line := line }
    let n ← copied fuel do
      if ← redirectAll (catching fuel) fuel redirections then execute fuel tested body
      else Run.setStatus 2
    Run.setStatus n
    checkStatus tested
  | fuel + 1, tested, .conditional test yes no => do
    execute fuel true test
    if (← Run.status) = 0 then execute fuel tested yes
    else
      match no with
      | .skip => Run.setStatus 0
      | no => execute fuel tested no
  | fuel + 1, tested, .loop untilSuccess test body => do
    Run.modifyProcess fun p => { p with loops := p.loops + 1 }
    Run.ensuring (loop fuel tested untilSuccess test body 0)
      (Run.modifyProcess fun p => { p with loops := p.loops - 1 })
  | fuel + 1, tested, .each line name words body => do
    Run.modifyProcess fun p => { p with line := line }
    let values ← words.flatMapM (expandFields (catching fuel) fuel)
    if values.isEmpty then Run.setStatus 0
    Run.modifyProcess fun p => { p with loops := p.loops + 1 }
    Run.ensuring (each fuel tested name body values)
      (Run.modifyProcess fun p => { p with loops := p.loops - 1 })
  | fuel + 1, tested, .choice line subject branches => do
    Run.modifyProcess fun p => { p with line := line }
    let t ← expandJoined (catching fuel) fuel subject
    choose fuel tested t branches
  | _ + 1, _, .function _ name body => do
    Run.modifyProcess fun p => { p with functions := p.functions.insert name body, status := 0 }

/-- Runs the body of a loop again and again; the last argument is the status of its last round. -/
def loop : Nat → Bool → Bool → Command → Command → Nat → Run m Unit
  | 0, _, _, _, _, _ => Run.giveUp
  | fuel + 1, tested, untilSuccess, test, body, last => do
    match ← inLoop (execute fuel true test) with
    | .left => Run.setStatus last
    | .again => loop fuel tested untilSuccess test body last
    | .done =>
      if ((← Run.status) == 0) == untilSuccess then Run.setStatus last
      else
        match ← inLoop (execute fuel tested body) with
        | .left => return
        | _ => loop fuel tested untilSuccess test body (← Run.status)

/-- Runs the body of a loop for one value after the other. -/
def each : Nat → Bool → Text → Command → List Text → Run m Unit
  | 0, _, _, _, _ => Run.giveUp
  | _ + 1, _, _, _, [] => return
  | fuel + 1, tested, name, body, value :: rest => do
    assign name value
    match ← inLoop (execute fuel tested body) with
    | .left => return
    | _ => each fuel tested name body rest

/-- Runs the first of the branches that has a pattern for a text. -/
def choose : Nat → Bool → Text → List (List Word × Command) → Run m Unit
  | 0, _, _, _ => Run.giveUp
  | _ + 1, _, _, [] => Run.setStatus 0
  | fuel + 1, tested, t, (patterns, body) :: rest => do
    let found ← patterns.findM? fun w => do
      let pattern ← expandPattern (catching fuel) fuel w
      return Glob.isMatch (Glob.ofMarked pattern) t
    if found.isNone then choose fuel tested t rest
    else
      match body with
      | .skip => Run.setStatus 0
      | body => execute fuel tested body

/-- Runs commands each of which reads what the one before it writes. -/
def pipe : Nat → Bool → Option Nat → List Command → Run m Unit
  | 0, _, _, _ => Run.giveUp
  | _ + 1, _, _, [] => return
  | fuel + 1, tested, input, c :: rest => do
    let output ← if rest.isEmpty then pure none else do
      pure (some (← Run.addChannel (.sink [])))
    let n ← copied fuel do
      if input.isSome then Run.connect 0 input
      if output.isSome then Run.connect 1 output
      execute fuel tested c
    match output with
    | none => Run.setStatus n
    | some k => do
      Run.setChannel k (.source (← Run.channel k).written)
      pipe fuel tested output rest

/-- Runs a step in a copy of the process; the answer is its status. -/
def copied : Nat → Run m Unit → Run m Nat
  | 0, _ => Run.giveUp
  | fuel + 1, body => do
    let p ← Run.process
    Run.modifyProcess fun p => { p with traps := .empty, isCopy := true }
    let n ← ended fuel body
    Run.modifyProcess fun q => { p with signals := q.signals }
    return n

/-- Runs a step and then what is to be run at the end of the process; the answer is its status. -/
def ended : Nat → Run m Unit → Run m Nat
  | 0, _ => Run.giveUp
  | fuel + 1, body => do
    let wish ← inProcess body
    let n := wish.getD (← Run.status)
    match (← Run.process).traps.get? "EXIT".toList with
    | none => return n
    | some t => do
      Run.modifyProcess fun p => { p with
        traps := p.traps.erase "EXIT".toList, status := n, loops := 0, builtin := none }
      let wish ← inProcess (runText fuel false t)
      return wish.getD n

/-- What a command writes. -/
def catching : Nat → Command → Run m Text
  | 0, _ => Run.giveUp
  | fuel + 1, body => do
    let k ← Run.addChannel (.sink [])
    let n ← copied fuel do
      Run.connect 1 (some k)
      execute fuel false body
    Run.modifyProcess fun p => { p with outputStatus := n }
    let t := (← Run.channel k).written
    Run.setChannel k .nowhere
    return t

/-- Does what is to be done about the signals that have come in. -/
def signals : Nat → Run m Unit
  | 0 => Run.giveUp
  | fuel + 1 => do
    let p ← Run.process
    if !p.signals.isEmpty && !p.isCopy then
      Run.modifyProcess fun p => { p with signals := [] }
      p.signals.reverse.forM fun name => do
        match (← Run.process).traps.get? name with
        | none =>
          if name ≠ "CHLD".toList ∧ name ≠ "CONT".toList then
            throw (.killed (Builtin.signalNumber name))
        | some t => do
          let n ← Run.status
          runText fuel false t
          Run.setStatus n

/-- Runs a simple command. -/
def simple : Nat → Bool → Nat → List (Text × Word) → List Word → List Redirection → Run m Unit
  | 0, _, _, _, _, _ => Run.giveUp
  | fuel + 1, tested, line, assignments, words, redirections => do
    Run.modifyProcess fun p => { p with line := line, outputStatus := 0 }
    let words ← expandWords (catching fuel) fuel [] words
    let values : List (Text × Run m Text) := assignments.map fun (name, w) =>
      (name, expandJoined (catching fuel) fuel w)
    let streams := (← Run.process).streams
    let name := words.headD []
    let isFunction := ((← Run.process).functions.get? name).isSome && !Builtin.isSpecial name
    let isSpecial := !words.isEmpty && Builtin.isSpecial name
    let body : Run m Unit := do
      if ← redirectAll (catching fuel) fuel redirections then
        if words.isEmpty || isSpecial then
          trace (← assignAll values) words
          if words.isEmpty then Run.setStatus (← Run.process).outputStatus
          else builtin fuel tested name words.tail
        else
          withVariables values fun assigned => do
            trace assigned words
            if isFunction then function fuel tested name words.tail
            else if Builtin.isBuiltin name then builtin fuel tested name words.tail
            else Run.setStatus (← start fuel words)
      else
        Run.setStatus 2
        if isSpecial then throw (.over none)
    if words = ["exec".toList] then body
    else Run.ensuring body (Run.modifyProcess fun p => { p with streams := streams })

/-- Calls a function. -/
def function : Nat → Bool → Text → List Text → Run m Unit
  | 0, _, _, _ => Run.giveUp
  | fuel + 1, tested, name, arguments => do
    let p ← Run.process
    match p.functions.get? name with
    | none => return
    | some body =>
      Run.modifyProcess fun p => { p with
        arguments := arguments, loops := 0, hidden := [] :: p.hidden, optionOffset := none }
      Run.ensuring (inCall (execute fuel tested body)) <| Run.modifyProcess fun q =>
        { q with
          arguments := p.arguments
          loops := p.loops
          optionOffset := p.optionOffset
          hidden := p.hidden
          bindings := (q.hidden.headD []).foldl withVariables.restore q.bindings }

/-- Runs a built-in command. -/
def builtin : Nat → Bool → Text → List Text → Run m Unit
  | 0, _, _, _ => Run.giveUp
  | fuel + 1, tested, name, arguments => do
    let old := (← Run.process).builtin
    Run.modifyProcess fun p => { p with builtin := some name }
    Run.ensuring (do
      match String.ofList name, Builtin.command? name with
      | "eval", _ =>
        let t := Text.joinWith [' '] arguments
        if t.all Raw.isSpace then Run.setStatus 0 else runText fuel tested t
      | ".", _ => file fuel arguments
      | "command", _ => directly fuel tested arguments
      | "exec", _ =>
        if arguments.isEmpty then Run.setStatus 0
        else
          let n ← start fuel arguments
          Run.modifyProcess fun p => { p with traps := .empty }
          throw (.over (some n))
      | "type", _ =>
        let statuses ← arguments.mapM (tellMeaning false)
        Run.setStatus (statuses.foldl max 0)
      | _, some f =>
        try
          Run.setStatus (← f arguments)
        catch e =>
          if e = .over none && !Builtin.isSpecial name then return else throw e
      | _, none => return)
      (Run.modifyProcess fun p => { p with builtin := old })

/-- Runs a command that is no function, or says what it is. -/
def directly : Nat → Bool → List Text → Run m Unit
  | 0, _, _ => Run.giveUp
  | fuel + 1, tested, arguments => do
    let (letters, operands) ← Builtin.options "pvV".toList arguments
    match operands with
    | [] => Run.setStatus 0
    | name :: rest =>
      if 'v' ∈ letters ∨ 'V' ∈ letters then
        let statuses ← operands.mapM (tellMeaning ('v' ∈ letters))
        Run.setStatus (statuses.foldl max 0)
      else if Builtin.isBuiltin name then builtin fuel tested name rest
      else
        Run.modifyProcess fun p => { p with builtin := none }
        Run.setStatus (← start fuel operands)

/-- Runs the commands of a file. -/
def file : Nat → List Text → Run m Unit
  | 0, _ => Run.giveUp
  | fuel + 1, arguments => do
    match arguments with
    | [] => Run.setStatus 0
    | name :: _ => do
      let path ← if '/' ∈ name then pure (some name) else findFile name (← Program.searchPath)
      match path with
      | none => Run.abort (name ++ ": not found".toList)
      | some path =>
        match ← Run.readFile path with
        | .error fault => Run.abort (openMistake false path fault)
        | .ok t => do
          Run.modifyProcess fun p => { p with builtin := some path }
          Run.setStatus 0
          inCall (runText fuel false t)

/-- Runs the commands of a text. -/
def runText : Nat → Bool → Text → Run m Unit
  | 0, _, _ => Run.giveUp
  | fuel + 1, tested, t => do
    let script := Script.ofText t
    script.commands.forM (execute fuel tested)
    match script.mistake with
    | none => return
    | some mistake => do
      Run.modifyProcess fun p => { p with line := mistake.line }
      Run.abort mistake.message

/-- Starts a program; the answer is its status. -/
def start : Nat → List Text → Run m Nat
  | 0, _ => Run.giveUp
  | fuel + 1, words => do
    let name := words.headD []
    match ← begin fuel words with
    | .ok n => return n
    | .error .notFound | .error .notDirectory => do
      let reason := if name.isEmpty then ": Permission denied" else ": not found"
      Run.report (name ++ reason.toList)
      return 127
    | .error fault => do
      Run.report (name ++ ": ".toList ++ reason fault)
      return if '/' ∈ name then 126 else 127

/-- Starts a program, if it can be found. A file without an interpreter is a script. -/
def begin : Nat → List Text → Run m (Except FileFault Nat)
  | 0, _ => Run.giveUp
  | fuel + 1, words => do
    match ← Program.resolve (words.headD []) with
    | .ok (name, first) => return .ok (← launch fuel name (first ++ words.tail))
    | .error .notProgram =>
      match ← Program.locate? (words.headD []) with
      | .ok path => return .ok (← shell fuel "/bin/sh".toList (path :: words.tail))
      | .error fault => return .error fault
    | .error fault => return .error fault

/-- Runs a program under the name it has been called by; the answer is its status. -/
def launch : Nat → Text → List Text → Run m Nat
  | 0, _, _ => Run.giveUp
  | fuel + 1, name, words => do
    let known := Tool.nameOf (words.headD [])
    let arguments := words.tail
    if Program.shells.contains known then shell fuel name arguments
    else
      match Tool.ofName? known, Tool.launcher? (begin fuel) known with
      | some f, _ => f arguments
      | none, some f => f arguments
      | none, none => return 127

/-- Runs a shell; the answer is its status. -/
def shell : Nat → Text → List Text → Run m Nat
  | 0, _, _ => Run.giveUp
  | fuel + 1, name, arguments => do
    let p ← Run.process
    let fail (message : Text) : Run m Nat := do
      Run.write 2 (name ++ ": 0: ".toList ++ message ++ ['\n'])
      return 2
    match Call.read false arguments with
    | .error message => fail message
    | .ok call => do
      let (content, name, arguments) ← match call.hasCommands, call.operands with
        | true, t :: rest => pure (Except.ok t, rest.headD name, rest.tail)
        | true, [] => pure (Except.ok [], name, [])
        | false, path :: rest => do
          let content ← Run.readFile path
          pure (content.mapError (openMistake false path), path, rest)
        | false, [] => do pure (Except.ok (← Run.readInput), name, [])
      match content with
      | .error message => fail message
      | .ok t => do
        let old := p
        Run.modifyProcess fun p => p.called name arguments call.options
        assignExported "PWD".toList p.directory
        let n ← reaped (ended fuel (runText fuel false t))
        Run.modifyProcess fun _ => old
        return n

end

/-! ### From start to end -/

/-- What is seen of a program from outside. -/
structure Outcome where
  status : Nat
  output : Text
  errors : Text
  /-- What is left of the input. -/
  unread : Text
deriving DecidableEq, Repr

/-- More steps than any script that ends will take. -/
def stepLimit : Nat := 1000000000000

/-- The state before a program is started, with channels for its input, its output and its
errors. -/
def State.initial (directory : Text) (bindings : Dict Variable) (input : Text) : State where
  process := {
    name := "sh".toList
    arguments := []
    bindings := bindings
    streams := [(0, 0), (1, 1), (2, 2)]
    directory := directory }
  channels := #[.source input, .sink [], .sink []]

/-- Starts a program by its name. -/
def runProgram (name : Text) (arguments : List Text) : Run m (Except FileFault Nat) := do
  match ← Program.resolve name with
  | .ok (name, first) => return .ok (← launch stepLimit name (first ++ arguments))
  | .error fault => return .error fault

/-- Runs a program on an input, from a directory and with variables, if it can be started. -/
def run (host : Host m) (directory : Text) (bindings : List (Text × Text)) (name : Text)
    (arguments : List Text) (input : Text) : m (Except FileFault Outcome) := do
  let vs : Dict Variable := Dict.ofList
    (bindings.map fun (name, value) => (name, { value := some value, isExported := true }))
  let (result, s) ← ((runProgram name arguments).run host).run (.initial directory vs input)
  let channel (k : Nat) : Channel := s.channels.getD k .nowhere
  let outcome (status : Nat) : Outcome := {
    status := status
    output := (channel 1).written
    errors := (channel 2).written
    unread := match channel 0 with
      | .source rest => rest
      | _ => [] }
  return match result with
    | .ok (.ok n) => .ok (outcome n)
    | .ok (.error fault) => .error fault
    | .error _ => .ok (outcome 1)

end Retint.Shell
