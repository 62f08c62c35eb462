import Retint.Shell.Tool.Options

/-!
# Conditions

The arguments of a test make a condition: on texts, on numbers and on files. How many arguments
there are can decide what an argument means.

## Main definitions

* `Condition` — conditions
* `Condition.Sign`, `Condition.sign` — what an argument is, which the arguments after it decide
* `Condition.read` — the condition that arguments make
* `Condition.holds` — whether a condition holds
* `Condition.test` — a test as a command
-/

namespace Retint.Shell

inductive Condition
  | never
  | isSet (t : Text)
  | isEmpty (t : Text)
  /-- A property of a file, or of a stream. -/
  | file (property : Char) (name : Text)
  | compare (relation left right : Text)
  | not (a : Condition)
  | and (a b : Condition)
  | or (a b : Condition)
deriving DecidableEq, Repr

namespace Condition

/-! ### Signs -/

/-- What an argument is. -/
inductive Sign
  | finish | operand | not | and | or | opening | closing
  | unary (letter : Char)
  | binary (relation : Text)
deriving DecidableEq, Repr

/-- The letters of the conditions on one argument. -/
def letters : Text := "rwxefdcbpugkstznhOGLS".toList

/-- The relations between two arguments. -/
def relations : List Text :=
  ["=", "!=", "<", ">", "-eq", "-ne", "-ge", "-gt", "-le", "-lt", "-nt", "-ot", "-ef"].map
    String.toList

/-- The operator that an argument can be. -/
def operator? (t : Text) : Option Sign :=
  match t with
  | ['!'] => some .not
  | ['-', 'a'] => some .and
  | ['-', 'o'] => some .or
  | ['('] => some .opening
  | [')'] => some .closing
  | t =>
    if relations.contains t then some (.binary t)
    else
      match t with
      | ['-', c] => if c ∈ letters then some (.unary c) else none
      | _ => none

def isRelation (t : Text) : Bool := relations.contains t

/-- What the first of some arguments is. An operator for one argument without that argument is a
text like any other. -/
def sign : List Text → Sign
  | [] => .finish
  | t :: rest =>
    match operator? t with
    | some (.unary c) =>
      match rest with
      | [] => .operand
      | [_] => .unary c
      | s :: _ => if isRelation s then .operand else .unary c
    | some .opening => if rest.isEmpty then .operand else .opening
    | some s => s
    | none => .operand

/-! ### Reading -/

/-- Reading from an argument on, which is the first of those that are left. -/
abbrev Reading := StateT (List Text) (Except Text)

namespace Reading

/-- Gives up because of an operator. -/
def fail {α : Type} (operator : Text) (message : String) : Reading α :=
  throw (operator ++ ": ".toList ++ message.toList)

def drop : Reading Unit := modify List.tail

end Reading

open Condition.Reading

mutual

/-- A condition without operators around it. The sign is that of the current argument, which is the
last one of the condition afterwards. -/
def primary : Nat → Sign → Reading Condition
  | 0, _ => return never
  | fuel + 1, s => do
    match s with
    | .finish => return never
    | .opening => do
      drop
      match sign (← get) with
      | .closing => return never
      | s => do
        let a ← disjunction fuel s
        drop
        if sign (← get) = .closing then return a
        else throw "closing paren expected".toList
    | .unary c => do
      drop
      match ← get with
      | [] => fail ['-', c] "argument expected"
      | t :: _ =>
        return if c = 'z' then isEmpty t else if c = 'n' then isSet t else file c t
    | _ =>
      match ← get with
      | t :: rest =>
        match sign rest, rest with
        | .binary relation, _ :: u :: more => do
          set (u :: more)
          return compare relation t u
        | .binary relation, _ => fail relation "argument expected"
        | _, _ => return isSet t
      | [] => return never

/-- A condition that may be negated. -/
def negation : Nat → Sign → Reading Condition
  | 0, _ => return never
  | fuel + 1, s => do
    if s = .not then
      let s := sign (← get).tail
      if s ≠ .finish then drop
      return not (← negation fuel s)
    else primary fuel s

/-- Conditions all of which must hold. -/
def conjunction : Nat → Sign → Reading Condition
  | 0, _ => return never
  | fuel + 1, s => do
    let a ← negation fuel s
    if sign (← get).tail = .and then
      drop
      drop
      return and a (← conjunction fuel (sign (← get)))
    else return a

/-- Conditions one of which must hold. -/
def disjunction : Nat → Sign → Reading Condition
  | 0, _ => return never
  | fuel + 1, s => do
    let a ← conjunction fuel s
    if sign (← get).tail = .or then
      drop
      drop
      return or a (← disjunction fuel (sign (← get)))
    else return a

end

/-- The condition that arguments make, from a sign on. -/
def readAs (s : Sign) (arguments : List Text) : Except Text Condition := do
  let (a, rest) ← (disjunction (10 * arguments.length + 10) s).run arguments
  match rest with
  | t :: _ :: _ => throw (t ++ ": unexpected operator".toList)
  | _ => return a

/-- The condition that arguments make. Of three arguments a relation in the middle counts before
anything else; otherwise, parentheses around all of them and a sign of negation before them do. -/
def read : List Text → Except Text Condition
  | [] => return never
  | [a, b, c] =>
    if isRelation b then readAs .operand [a, b, c]
    else if a = ['('] ∧ c = [')'] then readAs (sign [b]) [b]
    else if a = ['!'] then return not (← readAs (sign [b, c]) [b, c])
    else readAs (sign [a, b, c]) [a, b, c]
  | [a, b, c, d] =>
    if a = ['('] ∧ d = [')'] then readAs (sign [b, c]) [b, c]
    else if a = ['!'] then return not (← read [b, c, d])
    else readAs (sign [a, b, c, d]) [a, b, c, d]
  | arguments => readAs (sign arguments) arguments

/-! ### Meaning -/

variable {m : Type → Type} [Monad m]

/-- A number, if a text is one of 64 bits. -/
def number? (t : Text) : Option Int :=
  (Raw.integer? t).filter fun n => -9223372036854775808 ≤ n && n ≤ 9223372036854775807

/-- Whether a relation of numbers holds. -/
def holdsFor (relation : Text) (a b : Int) : Bool :=
  match String.ofList relation with
  | "-eq" => a == b
  | "-ne" => a != b
  | "-ge" => b ≤ a
  | "-gt" => b < a
  | "-le" => a ≤ b
  | _ => a < b

/-- Whether a file has a property. -/
def fileHas (property : Char) (name : Text) : Run m Bool := do
  if property = 'L' ∨ property = 'h' then
    let p ← Run.pathOf name
    Run.onHost (·.isLink p)
  else
    match ← Run.kindOf name with
    | .error _ => return false
    | .ok kind =>
      if name = Run.nullName then return "erwcOG".toList.contains property
      else
        return match property, kind with
          | 'd', .directory => true
          | 'f', .file .. => true
          | 's', .directory => true
          | 's', .file size _ => size != 0
          | 'x', .directory => true
          | 'x', .file _ executable => executable
          | c, _ => "erwOG".toList.contains c

/-- Whether two names lead to the same file. -/
def isSame (a b : Text) : Run m Bool := do
  let p ← Run.pathOf a
  let q ← Run.pathOf b
  match ← Run.onHost (·.canonical p), ← Run.onHost (·.canonical q) with
  | .ok p, .ok q => return p = q
  | _, _ => return false

/-- Whether a condition holds, unless something in it is no number. -/
def holds : Condition → Run m (Except Text Bool)
  | never => return .ok false
  | isSet t => return .ok (!t.isEmpty)
  | isEmpty t => return .ok t.isEmpty
  | file c name => do
    if c = 't' then
      return match number? name with
        | some _ => .ok false
        | none => .error ("Illegal number: ".toList ++ name)
    else return .ok (← fileHas c name)
  | compare relation a b => do
    match String.ofList relation with
    | "=" => return .ok (a = b)
    | "!=" => return .ok (a ≠ b)
    | "<" => return .ok (Text.le a b && a != b)
    | ">" => return .ok (Text.le b a && a != b)
    | "-ef" => return .ok (← isSame a b)
    | "-nt" | "-ot" => return .ok false
    | _ =>
      return match number? a, number? b with
        | some x, some y => .ok (holdsFor relation x y)
        | none, _ => .error ("Illegal number: ".toList ++ a)
        | _, none => .error ("Illegal number: ".toList ++ b)
  | not a => do return (← holds a).map (! ·)
  | and a b => do
    match ← holds a, ← holds b with
    | .ok x, .ok y => return .ok (x && y)
    | .error message, _ | _, .error message => return .error message
  | or a b => do
    match ← holds a, ← holds b with
    | .ok x, .ok y => return .ok (x || y)
    | .error message, _ | _, .error message => return .error message

/-- A test. Its name says whether a bracket must close it; errors are told by `report`. -/
def test (report : Text → Run m Unit) (name : Text) (arguments : List Text) : Run m Nat := do
  let isClosed := name ≠ ['['] ∨ arguments.getLast? = some [']']
  if !isClosed then
    report "missing ]".toList
    return 2
  else
    match read (if name = ['['] then arguments.dropLast else arguments) with
    | .error message => do
      report message
      return 2
    | .ok a =>
      match ← holds a with
      | .ok b => return if b then 0 else 1
      | .error message => do
        report message
        return 2

end Condition

end Retint.Shell
