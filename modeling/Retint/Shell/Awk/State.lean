import Retint.Shell.Awk.Record
import Retint.Shell.Awk.Token
import Retint.Shell.Program
import Retint.Shell.Redirect

/-!
# The state of a record program

A name stands for a value or for an array. An array is given to a function as it is, a value is
copied; of a name that has not been used yet it turns out later what it is.

What is printed is kept back until another program is run or the program ends.

## Main definitions

* `Awk.Cell`, `Awk.Memory` — what names stand for, and all that a program has done so far
* `Awk.Halt`, `Awk.Step` — why what follows is not done, and a step of a program
* `Awk.fail`, `Awk.failHere` — errors
* `Awk.setRecord`, `setField`, `setFieldCount` — the record and its fields
* `Awk.Place`, `Awk.load`, `Awk.store` — where values are
* `Awk.put`, `Awk.putTo`, `Awk.close` — output
* `Awk.nextRecord`, `Awk.nextOf` — input
-/

namespace Retint.Shell.Awk

variable {m : Type → Type} [Monad m]

/-- What a name stands for. -/
inductive Cell
  | scalar (v : Value)
  | table (a : Table)
  /-- Nothing so far. If it turns out to be an array, then so does a cell of the caller. -/
  | unused (caller : Option Nat)
deriving Inhabited

/-- A file or a command that is read from. -/
structure Input where
  name : Text
  isCommand : Bool
  rest : Text
  status : Nat := 0

/-- A file or a command that is written to, and the channel that leads there. -/
structure Output where
  name : Text
  target : Target
  channel : Nat

/-- All that a program has done so far. -/
structure Memory where
  /-- The name that the program has been called by. -/
  tool : Text
  cells : Array Cell := #[]
  globals : Dict Nat := .empty
  /-- The names of the function that is being run. -/
  locals : List (Text × Nat) := []
  record : Value := .unset
  fields : Array Value := #[]
  inputs : List Input := []
  /-- The output that was used last comes first. -/
  outputs : List Output := []
  /-- What is kept back, in pieces, the latest first. -/
  kept : List Text := []
  /-- What is left of the current operand, and the number of the next one. -/
  input : Option Text := none
  operand : Nat := 1
  /-- Whether there has been an input. -/
  hasInput : Bool := false
  /-- The rules whose ranges have begun. -/
  begun : List Nat := []
  status : Nat := 0
  seed : Float := 0
  random : Nat := 1

/-- Why what follows is not done. -/
inductive Halt
  | next | nextFile | leave | again
  | back (v : Value)
  | exit | failed

/-- A step of a program. -/
abbrev Step (m : Type → Type) := ExceptT Halt (StateT Memory (Run m))

/-- A step of the script that runs the program. -/
def act {α : Type} (r : Run m α) : Step m α := ExceptT.lift (StateT.lift r)

/-! ### Names -/

/-- The cell of a name that is known everywhere. -/
def globalCell (name : Text) : Step m Nat := do
  let s ← get
  match s.globals.get? name with
  | some k => return k
  | none => do
    let k := s.cells.size
    set { s with cells := s.cells.push (.unused none), globals := s.globals.insert name k }
    return k

/-- The cell of a name. -/
def cellOf (name : Text) : Step m Nat := do
  match (← get).locals.lookup name with
  | some k => return k
  | none => globalCell name

def cell (k : Nat) : Step m Cell := do return (← get).cells.getD k (.unused none)

def setCell (k : Nat) (c : Cell) : Step m Unit :=
  modify fun s => { s with cells := s.cells.setIfInBounds k c }

/-- The value of a name that is known everywhere. -/
def globalValue (name : String) : Step m Value := do
  let s ← get
  match (s.globals.get? name.toList).bind (s.cells[·]?) with
  | some (.scalar v) => return v
  | _ => return .unset

def setGlobal (name : String) (v : Value) : Step m Unit := do
  let k ← globalCell name.toList
  setCell k (.scalar v)

/-! ### Values as text -/

/-- A value as text, with a name that says how numbers are written. -/
def textBy (format : String) (v : Value) : Step m Text := do
  match v with
  | .number x =>
    match ← globalValue format with
    | .text t | .input t => return numberText t x
    | _ => return numberText "%.6g".toList x
  | v => return v.toText []

def asText (v : Value) : Step m Text := textBy "CONVFMT" v

def globalText (name : String) : Step m Text := do asText (← globalValue name)

/-! ### Errors -/

/-- Tells of an error that ends the program. -/
def fail {α : Type} (message : Text) : Step m α := do
  act (Run.say (← get).tool message)
  modify fun s => { s with status := 2 }
  throw .failed

/-- Tells of an error and of the record where it came up. -/
def failHere {α : Type} (message : Text) : Step m α := do
  let file ← globalText "FILENAME"
  let n ← globalText "FNR"
  let total ← globalText "NR"
  fail ("run time error: ".toList ++ message ++ "\n\tFILENAME=\"".toList ++ file ++
    "\" FNR=".toList ++ n ++ " NR=".toList ++ total)

/-- A result, or an error that ends the program. -/
def orFail {α : Type} : Except Text α → Step m α
  | .ok a => return a
  | .error message => failHere message

/-! ### Arrays -/

/-- The cell of the array that a cell stands for. -/
def tableCell : Nat → Nat → Step m Nat
  | 0, k => return k
  | depth + 1, k => do
    match ← cell k with
    | .table _ => return k
    | .unused none =>
      setCell k (.table [])
      return k
    | .unused (some j) => tableCell depth j
    | .scalar _ => failHere "illegal reference to a value".toList

/-- The cell of the array with a name. -/
def tableOf (name : Text) : Step m Nat := do
  let k ← cellOf name
  tableCell ((← get).cells.size + 1) k

def table (k : Nat) : Step m Table := do
  match ← cell k with
  | .table a => return a
  | _ => return []

/-- The name of a member of an array that a value is. -/
def keyOf (vs : List Value) : Step m Text := do
  match ← vs.mapM asText with
  | [t] => return t
  | ts => return Text.joinWith (← globalText "SUBSEP") ts

/-- Whether a name is in an array, which then has been used last. -/
def isMember (k : Nat) (key : Text) : Step m Bool := do
  let a ← table k
  match a.get? key with
  | some v =>
    setCell k (.table (a.set key v))
    return true
  | none => return false

/-! ### The record -/

/-- The fields of a text as values. -/
def fieldsOf (t : Text) : Step m (Array Value) := do
  let s ← orFail (Separator.ofText (← globalText "FS"))
  return ((fields s t).map Value.input).toArray

def setRecord (v : Value) : Step m Unit := do
  let fs ← fieldsOf (← asText v)
  modify fun s => { s with record := v, fields := fs }

/-- Puts the record together from its fields. -/
def join : Step m Unit := do
  let separator ← globalText "OFS"
  let ts ← (← get).fields.toList.mapM asText
  modify fun s => { s with record := .input (Text.joinWith separator ts) }

def setFieldCount (n : Nat) : Step m Unit := do
  modify fun s => { s with
    fields := s.fields.extract 0 n ++ Array.replicate (n - s.fields.size) (.text []) }
  join

def setField (n : Nat) (v : Value) : Step m Unit := do
  if n = 0 then setRecord v
  else
    modify fun s =>
      let fs := s.fields ++ Array.replicate (n - s.fields.size) (.text [])
      { s with fields := fs.setIfInBounds (n - 1) v }
    join

/-! ### Places -/

/-- Where a value is. -/
inductive Place
  | name (n : Text)
  | field (n : Nat)
  | element (cell : Nat) (key : Text)

/-- Whether a name is the number of the fields. -/
def isFieldCount (name : Text) : Step m Bool := do
  return name = "NF".toList && ((← get).locals.lookup name).isNone

def load : Place → Step m Value
  | .name n => do
    if ← isFieldCount n then return Value.ofNat (← get).fields.size
    let k ← cellOf n
    match ← cell k with
    | .scalar v => return v
    | .unused _ => return .unset
    | .table _ => failHere ("illegal reference to array ".toList ++ n)
  | .field n => do
    let s ← get
    return if n = 0 then s.record else s.fields.getD (n - 1) (.text [])
  | .element k key => do
    let a ← table k
    let v := (a.get? key).getD .unset
    setCell k (.table (a.set key v))
    return v

def store (p : Place) (v : Value) : Step m Unit :=
  match p with
  | .name n => do
    if ← isFieldCount n then setFieldCount (fitting v.toNumber).toNat
    else
      let k ← cellOf n
      match ← cell k with
      | .table _ => failHere ("illegal reference to array ".toList ++ n)
      | _ => setCell k (.scalar v)
  | .field n => setField n v
  | .element k key => do
    let a ← table k
    setCell k (.table (a.set key v))

/-! ### Output -/

/-- Writes to the output. -/
def put (t : Text) : Step m Unit := modify fun s => { s with kept := t :: s.kept }

/-- Writes out what has been kept back. -/
def flush : Step m Unit := do
  let s ← get
  set { s with kept := [] }
  act (Run.put s.kept.reverse.flatten)

/-- Runs a command of the shell. -/
def command (start : Starter m) (t : Text) : Run m Nat := do
  match ← start ["/bin/sh".toList, "-c".toList, t] with
  | .ok n => return n
  | .error _ => return 127

/-- The channel of an output, which is opened if need be. -/
def outputOf (target : Target) (name : Text) : Step m Nat := do
  let s ← get
  let isSame (o : Output) : Bool := o.name = name && o.target = target
  match s.outputs.find? isSame with
  | some o => do
    set { s with outputs := o :: s.outputs.filter (! isSame ·) }
    return o.channel
  | none => do
    if target = .command then flush
    let opened ← act (match target with
      | .command => do return .ok (← Run.addChannel (.sink []))
      | .write => open? .write name
      | .append => open? .append name)
    match opened with
    | .ok k => do
      modify fun s => { s with outputs := ⟨name, target, k⟩ :: s.outputs }
      return k
    | .error fault =>
      fail ("cannot open \"".toList ++ name ++ "\" for output (".toList ++ reason fault ++ [')'])

/-- Writes to where a statement says. -/
def putTo (target : Target) (name t : Text) : Step m Unit := do
  if target ≠ .command ∧ (name = "/dev/stdout".toList ∨ name = ['-']) then put t
  else if target ≠ .command ∧ name = "/dev/stderr".toList then act (Run.write 2 t)
  else
    let k ← outputOf target name
    act (Run.writeTo k t)

/-- Ends an output; a command is run with what has been written to it. -/
def Output.finish (start : Starter m) (o : Output) : Run m Nat := do
  if o.target = .command then
    keepingStreams do
      let t := (← Run.channel o.channel).written
      Run.connect 0 (some (← Run.addChannel (.source t)))
      command start o.name
  else return 0

/-- Closes the outputs and the input with a name; the answer is the status of the command that one
of them was. -/
def close (start : Starter m) (name : Text) : Step m Int := do
  let s ← get
  set { s with
    outputs := s.outputs.filter (·.name != name), inputs := s.inputs.filter (·.name != name) }
  let ended ← (s.outputs.filter (·.name = name)).mapM fun o => act (o.finish start)
  let all := ended ++ (s.inputs.filter (·.name = name)).map Input.status
  return match all.getLast? with
    | some status => status
    | none => -1

/-- Closes all outputs and writes out what has been kept back. -/
def closeAll (start : Starter m) : Step m Unit := do
  let s ← get
  set { s with outputs := [] }
  s.outputs.forM fun o => do
    let _ ← act (o.finish start)
  flush

/-! ### Input -/

/-- The first record of a text, and what follows it. -/
def cut (t : Text) : Step m (Option (Text × Text)) := do
  orFail (record (← globalText "RS") t)

/-- The text of a file, if it can be read. -/
def fileText (name : Text) : Step m (Except FileFault Text) := do
  match ← act (Run.readOperand name) with
  | .error .isDirectory => fail "read error (Is a directory)".toList
  | t => return t

/-- The variable that an operand sets, and its value. -/
def assignment? (t : Text) : Option (Text × Text) :=
  (Text.cut? '=' t).filter fun (name, _) => Raw.isName name

/-- Begins with the next operand. The answer says whether there is one. -/
def openNext : Nat → Step m Bool
  | 0 => return false
  | fuel + 1 => do
    let count := (fitting (← globalValue "ARGC").toNumber).toNat
    let s ← get
    if s.operand < count then
      set { s with operand := s.operand + 1 }
      let k ← globalCell "ARGV".toList
      let name ← asText (((← table k).get? (Raw.decimal s.operand)).getD .unset)
      match name, assignment? name with
      | [], _ => openNext fuel
      | _, some (x, value) => do
        store (.name x) (.input (unquote 0 value))
        openNext fuel
      | _, none => opened name
    else if s.hasInput then return false
    else opened ['-']
where
  /-- Begins with a file. -/
  opened (name : Text) : Step m Bool := do
    match ← fileText name with
    | .ok t => do
      modify fun s => { s with input := some t, hasInput := true }
      setGlobal "FILENAME" (.text name)
      setGlobal "FNR" (.number 0)
      return true
    | .error fault =>
      fail ("cannot open \"".toList ++ name ++ "\" (".toList ++ reason fault ++ [')'])

/-- Counts a record. -/
def countRecord : Step m Unit := do
  setGlobal "NR" (.number ((← globalValue "NR").toNumber + 1))
  setGlobal "FNR" (.number ((← globalValue "FNR").toNumber + 1))

/-- The next record of the operands. -/
def nextRecord : Nat → Step m (Option Text)
  | 0 => return none
  | fuel + 1 => do
    match (← get).input with
    | some t =>
      match ← cut t with
      | some (r, rest) => do
        modify fun s => { s with input := some rest }
        countRecord
        return some r
      | none => do
        modify fun s => { s with input := none }
        nextRecord fuel
    | none => if ← openNext fuel then nextRecord fuel else return none

/-- An input that is a file or a command; it is opened if need be. -/
def inputOf (start : Starter m) (name : Text) (isCommand : Bool) : Step m (Option Input) := do
  match (← get).inputs.find? fun i => i.name = name && i.isCommand = isCommand with
  | some i => return some i
  | none =>
    if isCommand then
      flush
      let (t, status) ← act (keepingStreams do
        let k ← Run.addChannel (.sink [])
        Run.connect 1 (some k)
        let status ← command start name
        return ((← Run.channel k).written, status))
      return some ⟨name, true, t, status⟩
    else
      match ← fileText name with
      | .ok t => return some ⟨name, false, t, 0⟩
      | .error _ => return none

/-- The next record of a file or of what a command writes. A fault is one of the file. -/
def nextOf (start : Starter m) (name : Text) (isCommand : Bool) :
    Step m (Option (Option Text)) := do
  match ← inputOf start name isCommand with
  | none => return none
  | some i => do
    let cutOff ← cut i.rest
    let rest := match cutOff with
      | some (_, rest) => rest
      | none => []
    modify fun s =>
      let others := s.inputs.filter fun j => j.name != name || j.isCommand != isCommand
      { s with inputs := { i with rest := rest } :: others }
    return some (cutOff.map Prod.fst)

end Retint.Shell.Awk
