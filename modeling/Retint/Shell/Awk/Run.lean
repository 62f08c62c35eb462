import Retint.Shell.Awk.Reader
import Retint.Shell.Awk.State

/-!
# Running record programs

## Main definitions

* `Awk.eval`, `Awk.exec` — the values of expressions, and doing what statements say
* `Awk.perform` — a program from start to end
* `Awk.Call`, `Awk.run` — what the tool is called with, and the tool

## Implementation notes

A first argument of type `Nat` bounds the number of steps. It is only there because a program can
run for ever.
-/

namespace Retint.Shell.Awk

variable {m : Type → Type} [Monad m]

/-- Gives up a program that takes too many steps. -/
def giveUp {α : Type} : Step m α := act Run.giveUp

/-! ### Parts of expressions -/

/-- Whether a record has a match. -/
def isFound (r : Regex) (v : Value) : Step m Value := do
  return Value.ofBool (found? r (← asText v)).isSome

/-- The regular expression that a value is. -/
def regexFrom (v : Value) : Step m Regex := do orFail (regexOf (← asText v))

/-- Writes values by a format for a function. The answer is what could be written, even if there is
an error, which is told by the second step. -/
def format (function : String) : List Value → Step m (Text × Step m Unit)
  | [] => return ([], failHere ("not enough arguments passed to ".toList ++ function.toList))
  | form :: vs => do
    let form ← asText form
    let (t, trouble) := written (← globalText "CONVFMT") form vs
    let quoted := function.toList ++ "(\"".toList ++ form ++ "\")".toList
    return (t, match trouble with
      | none => return
      | some .missing => failHere ("not enough arguments passed to ".toList ++ quoted)
      | some (.improper n) =>
        failHere
          ("improper conversion(number ".toList ++ Raw.decimal n ++ ") in ".toList ++ quoted))

/-- What a field's number stands for. -/
def fieldPlace (v : Value) : Step m Place := do
  let n := fitting v.toNumber
  if n < 0 then failHere ("negative field index $".toList ++ Raw.decimal n)
  else return .field n.toNat

/-- The answer to reading a record: whether there was one, or an error. -/
def readAnswer : Option (Option Text) → Value
  | some (some _) => .number 1
  | some none => .number 0
  | none => .number (-1)

/-- Fills an array with the parts of a text. -/
def fill (k : Nat) (parts : List Text) : Step m Unit :=
  setCell k (.table ((parts.zipIdx.map fun (t, i) =>
    (Raw.decimal (i + 1), Value.input t)).reverse))

/-- The functions of numbers. -/
def mathematical? (name : String) (x y : Float) : Option Float :=
  match name with
  | "sin" => some x.sin
  | "cos" => some x.cos
  | "atan2" => some (x.atan2 y)
  | "exp" => some x.exp
  | "log" => some x.log
  | "sqrt" => some x.sqrt
  | "int" => some (wholePart x)
  | _ => none

/-- The built-in functions whose arguments are values. -/
def applyTo (start : Starter m) (name : String) (vs : List Value) : Step m Value := do
  let value (n : Nat) : Value := vs.getD n .unset
  let number (n : Nat) : Float := (value n).toNumber
  match mathematical? name (number 0) (number 1) with
  | some x => return .number x
  | none =>
    match name with
    | "length" =>
      let v := vs.headD (← get).record
      return Value.ofNat (← asText v).length
    | "substr" =>
      let t ← asText (value 0)
      let count := if vs.length < 3 then none else some (fitting (number 2))
      return .text (part t (fitting (number 1)) count)
    | "index" =>
      let t ← asText (value 0)
      let u ← asText (value 1)
      return Value.ofNat (((List.range t.length).findIdx? fun i =>
        Text.startsWith u (t.drop i)).elim 0 (· + 1))
    | "tolower" => return .text ((← asText (value 0)).map Char.toLower)
    | "toupper" => return .text ((← asText (value 0)).map Char.toUpper)
    | "sprintf" =>
      let (t, trouble) ← format "sprintf" vs
      trouble
      return .text t
    | "rand" =>
      let n := ((← get).random * 16807) % 2147483647
      modify fun s => { s with random := n }
      return .number (Float.ofNat n / 2147483647)
    | "srand" =>
      let old := (← get).seed
      modify fun s => { s with
        seed := number 0, random := (fitting (number 0)).natAbs % 2147483646 + 1 }
      return .number old
    | "system" =>
      flush
      let t ← asText (value 0)
      return Value.ofNat (← act (command start t))
    | "close" => return .number (Number.ofInt (← close start (← asText (value 0))))
    | "fflush" =>
      flush
      return .number 0
    | _ => return .unset

/-! ### Expressions -/

/-- What becomes of a statement in the body of a loop: whether the loop goes on. -/
def inLoop (body : Step m Unit) : Step m Bool := do
  try
    body
    return true
  catch e =>
    match e with
    | .leave => return false
    | .again => return true
    | e => throw e

mutual

/-- The value of an expression. -/
def eval (start : Starter m) (fs : Dict Function) : Nat → Expr → Step m Value
  | 0, _ => giveUp
  | fuel + 1, e => do
    match e with
    | .number x => return .number x
    | .text t => return .text t
    | .regex r => isFound r (← get).record
    | .name _ | .field _ | .element .. => load (← place start fs fuel e)
    | .assign target value => do
      let p ← place start fs fuel target
      let v ← eval start fs fuel value
      store p v
      return v
    | .update o target value => do
      let p ← place start fs fuel target
      let y ← eval start fs fuel value
      let v := Value.number (o.apply (← load p).toNumber y.toNumber)
      store p v
      return v
    | .step isBefore isUp target => do
      let p ← place start fs fuel target
      let x := (← load p).toNumber
      let y := if isUp then x + 1 else x - 1
      store p (.number y)
      return .number (if isBefore then y else x)
    | .cond test yes no => do
      if (← eval start fs fuel test).isTrue then eval start fs fuel yes
      else eval start fs fuel no
    | .or a b => do
      if (← eval start fs fuel a).isTrue then return .number 1
      else return Value.ofBool (← eval start fs fuel b).isTrue
    | .and a b => do
      if (← eval start fs fuel a).isTrue then
        return Value.ofBool (← eval start fs fuel b).isTrue
      else return .number 0
    | .not a => do return Value.ofBool !(← eval start fs fuel a).isTrue
    | .isIn index array => do
      let key ← keyOf (← evals start fs fuel index)
      return Value.ofBool (← isMember (← tableOf array) key)
    | .found isNegated a pattern => do
      let v ← eval start fs fuel a
      let r ← regex start fs fuel pattern
      let found := (found? r (← asText v)).isSome
      return Value.ofBool (found != isNegated)
    | .compare r a b => do
      let v ← eval start fs fuel a
      let w ← eval start fs fuel b
      return Value.ofBool (v.relate (← globalText "CONVFMT") r w)
    | .concat a b => do
      let s ← asText (← eval start fs fuel a)
      let t ← asText (← eval start fs fuel b)
      return .text (s ++ t)
    | .binary o a b => do
      let x := (← eval start fs fuel a).toNumber
      let y := (← eval start fs fuel b).toNumber
      return .number (o.apply x y)
    | .negative a => do return .number (-(← eval start fs fuel a).toNumber)
    | .positive a => do return .number (← eval start fs fuel a).toNumber
    | .call function arguments => do
      match fs.get? function with
      | some f => call start fs fuel f (← passed start fs fuel arguments)
      | none => return .unset
    | .apply builtin arguments => apply start fs fuel (String.ofList builtin) arguments
    | .nextLine target file command => do
      let p ← target.mapM (place start fs fuel)
      let v? := match p with
        | some p => store p
        | none => setRecord
      let got ← match file, command with
        | some f, _ => do nextOf start (← asText (← eval start fs fuel f)) false
        | none, some c => do nextOf start (← asText (← eval start fs fuel c)) true
        | none, none => do pure (some (← nextRecord fuel))
      match got with
      | some (some r) => v? (.input r)
      | _ => pure ()
      return readAnswer got
    | .several es => do return .text (← keyOf (← evals start fs fuel es))

/-- The values of expressions. -/
def evals (start : Starter m) (fs : Dict Function) : Nat → List Expr → Step m (List Value)
  | 0, _ => giveUp
  | _ + 1, [] => return []
  | fuel + 1, e :: es => do
    let v ← eval start fs fuel e
    return v :: (← evals start fs fuel es)

/-- The regular expression that an expression is. -/
def regex (start : Starter m) (fs : Dict Function) : Nat → Expr → Step m Regex
  | 0, _ => giveUp
  | fuel + 1, e =>
    match e with
    | .regex r => return r
    | e => do regexFrom (← eval start fs fuel e)

/-- The place that an expression stands for. -/
def place (start : Starter m) (fs : Dict Function) : Nat → Expr → Step m Place
  | 0, _ => giveUp
  | fuel + 1, e => do
    match e with
    | .name n => return .name n
    | .field index => fieldPlace (← eval start fs fuel index)
    | .element array index => do
      let key ← keyOf (← evals start fs fuel index)
      return .element (← tableOf array) key
    | _ => failHere "no place for a value".toList

/-- What is passed to a function: values, and the cells of names that are arrays or may become
some. -/
def passed (start : Starter m) (fs : Dict Function) : Nat → List Expr → Step m (List Cell)
  | 0, _ => giveUp
  | _ + 1, [] => return []
  | fuel + 1, e :: es => do
    let c ← match e with
      | .name n =>
        if ← isFieldCount n then pure (Cell.scalar (← load (.name n)))
        else
          let k ← cellOf n
          match ← cell k with
          | .scalar v => pure (.scalar v)
          | _ => pure (.unused (some k))
      | e => pure (.scalar (← eval start fs fuel e))
    return c :: (← passed start fs fuel es)

/-- Calls a function. -/
def call (start : Starter m) (fs : Dict Function) : Nat → Function → List Cell → Step m Value
  | 0, _, _ => giveUp
  | fuel + 1, f, cells => do
    let s ← get
    let own := f.parameters.zipIdx.map fun (name, i) => (name, s.cells.size + i)
    let filled := (cells ++ f.parameters.map fun _ => Cell.unused none).take f.parameters.length
    set { s with cells := s.cells ++ filled.toArray, locals := own }
    let v ← try
        exec start fs fuel f.body
        pure Value.unset
      catch e =>
        match e with
        | .back v => pure v
        | e => throw e
    modify fun t => { t with locals := s.locals }
    return v

/-- Calls a built-in function. -/
def apply (start : Starter m) (fs : Dict Function) : Nat → String → List Expr → Step m Value
  | 0, _, _ => giveUp
  | fuel + 1, name, arguments => do
    match name, arguments with
    | "length", [.name n] =>
      let k ← cellOf n
      match ← cell k with
      | .scalar v => return Value.ofNat (← asText v).length
      | .unused none =>
        if ← isFieldCount n then applyTo start name [← load (.name n)]
        else return .number 0
      | _ => return Value.ofNat (← table (← tableOf n)).length
    | "split", s :: .name array :: rest =>
      let t ← asText (← eval start fs fuel s)
      let parts ← match rest with
        | [] => do pure ((← fieldsOf t).toList.map fun v => v.toText [])
        | .regex r :: _ => pure (fields (.regex r) t)
        | e :: _ => do
          let separator ← orFail (Separator.ofText (← asText (← eval start fs fuel e)))
          pure (fields separator t)
      let k ← tableOf array
      fill k parts
      return Value.ofNat parts.length
    | "match", [s, e] =>
      let t ← asText (← eval start fs fuel s)
      let r ← regex start fs fuel e
      let (first, length) : Int × Int := match found? r t with
        | some m => (m.start + 1, m.stop - m.start)
        | none => (0, -1)
      setGlobal "RSTART" (.number (Number.ofInt first))
      setGlobal "RLENGTH" (.number (Number.ofInt length))
      return .number (Number.ofInt first)
    | "sub", e :: new :: target => substituted start fs fuel false e new target
    | "gsub", e :: new :: target => substituted start fs fuel true e new target
    | _, _ => applyTo start name (← evals start fs fuel arguments)

/-- Replaces what is found, in the record or at another place. -/
def substituted (start : Starter m) (fs : Dict Function) :
    Nat → Bool → Expr → Expr → List Expr → Step m Value
  | 0, _, _, _, _ => giveUp
  | fuel + 1, isGlobal, e, new, target => do
    let r ← regex start fs fuel e
    let new ← asText (← eval start fs fuel new)
    let p ← match target with
      | [] => pure (some (Place.field 0))
      | e :: _ => if Reader.isTarget e then some <$> place start fs fuel e else pure none
    match p with
    | none => return .number 0
    | some p => do
      let (t, n) := substitute isGlobal r new (← asText (← load p))
      if 0 < n then store p (.text t)
      return Value.ofNat n

/-- Does what a statement says. -/
def exec (start : Starter m) (fs : Dict Function) : Nat → Stmt → Step m Unit
  | 0, _ => giveUp
  | fuel + 1, s => do
    match s with
    | .eval e => do
      let _ ← eval start fs fuel e
    | .print es target => do
      let separator ← globalText "OFS"
      let vs ← if es.isEmpty then do pure [(← get).record] else evals start fs fuel es
      let ts ← vs.mapM (textBy "OFMT")
      writeOut start fs fuel target (Text.joinWith separator ts ++ (← globalText "ORS"))
    | .printFormat es target => do
      let (t, trouble) ← format "printf" (← evals start fs fuel es)
      writeOut start fs fuel target t
      trouble
    | .cond test yes no => do
      if (← eval start fs fuel test).isTrue then exec start fs fuel yes
      else exec start fs fuel no
    | .loop test body => loop start fs fuel (some test) nothing body
    | .loopAfter body test => do
      if ← inLoop (exec start fs fuel body) then loop start fs fuel (some test) nothing body
    | .count first test step body => do
      exec start fs fuel first
      loop start fs fuel test step body
    | .each name array body => do
      let a ← table (← tableOf array)
      each start fs fuel name body a.keys
    | .block body => execs start fs fuel body
    | .next => throw .next
    | .nextFile => throw .nextFile
    | .exit e? => do
      match e? with
      | some e => do
        let n := (fitting (← eval start fs fuel e).toNumber % 256).toNat
        modify fun s => { s with status := n }
      | none => pure ()
      throw .exit
    | .giveBack e? => do
      match e? with
      | some e => do
        let v ← eval start fs fuel e
        throw (.back v)
      | none => throw (.back .unset)
    | .leave => throw .leave
    | .again => throw .again
    | .delete array index => do
      let k ← tableOf array
      match index with
      | some es => do
        let key ← keyOf (← evals start fs fuel es)
        setCell k (.table ((← table k).erase key))
      | none => setCell k (.table [])
where
  /-- An empty statement. -/
  nothing : Stmt := .block []

/-- Does one statement after the other. -/
def execs (start : Starter m) (fs : Dict Function) : Nat → List Stmt → Step m Unit
  | 0, _ => giveUp
  | _ + 1, [] => return
  | fuel + 1, s :: ss => do
    exec start fs fuel s
    execs start fs fuel ss

/-- Goes on with a loop as long as a test holds. -/
def loop (start : Starter m) (fs : Dict Function) :
    Nat → Option Expr → Stmt → Stmt → Step m Unit
  | 0, _, _, _ => giveUp
  | fuel + 1, test, step, body => do
    let goesOn ← match test with
      | some e => do pure (← eval start fs fuel e).isTrue
      | none => pure true
    if goesOn then
      if ← inLoop (exec start fs fuel body) then
        exec start fs fuel step
        loop start fs fuel test step body

/-- Does something for each of some names. -/
def each (start : Starter m) (fs : Dict Function) : Nat → Text → Stmt → List Text → Step m Unit
  | 0, _, _, _ => giveUp
  | _ + 1, _, _, [] => return
  | fuel + 1, name, body, key :: keys => do
    store (.name name) (.text key)
    if ← inLoop (exec start fs fuel body) then each start fs fuel name body keys

/-- Writes to the output, or to where a statement says. -/
def writeOut (start : Starter m) (fs : Dict Function) :
    Nat → Option (Target × Expr) → Text → Step m Unit
  | 0, _, _ => giveUp
  | _ + 1, none, t => put t
  | fuel + 1, some (target, e), t => do
    let name ← asText (← eval start fs fuel e)
    putTo target name t

end

/-! ### Programs -/

/-- Whether a record is one of those that something is done for. The number is that of the rule. -/
def applies (start : Starter m) (fs : Dict Function) (fuel k : Nat) : Pattern → Step m Bool
  | .always => return true
  | .test e => do return (← eval start fs fuel e).isTrue
  | .range first last => do
    let begins ← if (← get).begun.contains k then pure true
      else do pure (← eval start fs fuel first).isTrue
    if begins then
      let ends := (← eval start fs fuel last).isTrue
      modify fun s =>
        let others := s.begun.filter (· != k)
        { s with begun := if ends then others else k :: others }
    return begins

/-- Does what the rules say for the current record. -/
def applyRules (start : Starter m) (p : Program) (fuel : Nat) : Step m Unit := do
  try
    p.rules.zipIdx.forM fun (rule, k) => do
      if ← applies start p.functions fuel k rule.pattern then
        exec start p.functions fuel (rule.action.getD (.print [] none))
  catch e =>
    match e with
    | .next => return
    | .nextFile => modify fun s => { s with input := none }
    | e => throw e

/-- Does what the rules say for each record of the input. -/
def records (start : Starter m) (p : Program) : Nat → Step m Unit
  | 0 => giveUp
  | fuel + 1 => do
    match ← nextRecord fuel with
    | none => return
    | some r => do
      setRecord (.input r)
      applyRules start p fuel
      records start p fuel

/-- One part of a program. The answer says whether the program is to go on with the next one. -/
def phase (body : Step m Unit) : Step m Bool := do
  try
    body
    return true
  catch e =>
    match e with
    | .failed => throw .failed
    | .exit => return false
    | _ => return true

/-- A program from start to end. -/
def perform (start : Starter m) (p : Program) (fuel : Nat) : Step m Unit := do
  try
    let goesOn ← phase (p.starts.forM (exec start p.functions fuel))
    if goesOn && !(p.rules.isEmpty && p.ends.isEmpty) then
      let _ ← phase (records start p fuel)
    let _ ← phase (p.ends.forM (exec start p.functions fuel))
  catch _ => pure ()

/-! ### The tool -/

/-- What the tool is called with. -/
structure Call where
  separator : Option Text := none
  assignments : List (Text × Text) := []
  files : List Text := []
  operands : List Text := []
deriving DecidableEq, Repr

namespace Call

/-- The letters of the options, all of which have a value. -/
def letters : Text := ['F', 'v', 'f']

/-- A call with one more option before the others. -/
def add (c : Call) (letter : Char) (value : Text) : Except Text Call :=
  if letter = 'F' then .ok { c with separator := c.separator.or (some value) }
  else if letter = 'f' then .ok { c with files := value :: c.files }
  else
    match assignment? value with
    | some a => .ok { c with assignments := a :: c.assignments }
    | none => .error ("improper assignment: -v ".toList ++ value)

/-- Reads the arguments of the tool; `waiting` is an option whose value comes next. -/
def read : Option Char → List Text → Except Text Call
  | some c, [] => .error ("option -".toList ++ c :: " lacks argument".toList)
  | none, [] => .ok {}
  | some c, value :: rest => do (← read none rest).add c value
  | none, a :: rest =>
    match a with
    | ['-', '-'] => .ok { operands := rest }
    | ['-', c] =>
      if c ∈ letters then read (some c) rest else .error ("not an option: ".toList ++ a)
    | '-' :: c :: value =>
      if c ∈ letters then do (← read none rest).add c value
      else .error ("not an option: ".toList ++ a)
    | a => .ok { operands := a :: rest }

end Call

/-- What names stand for at the start. -/
def setUp (c : Call) (tool : Text) (operands : List Text) : Step m Unit := do
  for (name, value) in [("FS", " "), ("OFS", " "), ("ORS", "\n"), ("RS", "\n"),
      ("SUBSEP", "\x1c"), ("CONVFMT", "%.6g"), ("OFMT", "%.6g")] do
    setGlobal name (.text value.toList)
  for (name, value) in [("NR", 0), ("FNR", 0), ("RSTART", 0), ("RLENGTH", -1)] do
    setGlobal name (.number (Number.ofInt value))
  setGlobal "ARGC" (Value.ofNat (operands.length + 1))
  fill (← globalCell "ARGV".toList) []
  setCell (← globalCell "ARGV".toList) (.table ((tool :: operands).zipIdx.map fun (t, i) =>
    (Raw.decimal i, Value.input t)))
  let bindings := (← act Run.process).bindings.entries.filterMap fun (name, v) =>
    if v.isExported then v.value.map fun t => (name, Value.input t) else none
  setCell (← globalCell "ENVIRON".toList) (.table bindings)
  match c.separator with
  | some t => setGlobal "FS" (.text (unquote 0 t))
  | none => pure ()
  c.assignments.forM fun (name, value) =>
    store (.name name) (.input (unquote 0 value))

/-- The text of the program and the operands that are left. -/
def source (c : Call) : Step m (Text × List Text) := do
  if c.files.isEmpty then return (c.operands.headD [], c.operands.tail)
  else
    let ts ← c.files.mapM fun name => do
      match ← fileText name with
      | .ok t => return t
      | .error fault =>
        fail ("cannot open \"".toList ++ name ++ "\" (".toList ++ reason fault ++ [')'])
    return (ts.flatten, c.operands)

/-- Reads a program and runs it. -/
def called (start : Starter m) (fuel : Nat) (c : Call) : Step m Unit := do
  let (t, operands) ← source c
  match Program.ofText t with
  | .error mistake =>
    fail ((match mistake.line with
      | some n => "line ".toList ++ Raw.decimal n ++ ": ".toList
      | none => []) ++ mistake.message)
  | .ok p => do
    setUp c (← get).tool operands
    perform start p fuel

/-- More steps than any program that ends will take. -/
def stepLimit : Nat := 1000000000000

/-- The tool under the name that it is called by. -/
def run (name : Text) (start : Starter m) (arguments : List Text) : Run m Nat := do
  let body : Step m Unit := do
    match Call.read none arguments with
    | .error message => fail message
    | .ok c =>
      if c.files.isEmpty && c.operands.isEmpty then
        act (Run.write 2 "Usage: mawk [Options] [Program] [file ...]\n".toList)
      else called start stepLimit c
  let whole : StateT Memory (Run m) Unit := do
    let _ ← body.run
    let _ ← (closeAll start).run
  let (_, s) ← whole.run { tool := name }
  return s.status

end Retint.Shell.Awk
