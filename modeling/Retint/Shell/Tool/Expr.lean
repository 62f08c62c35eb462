import Retint.Shell.Regex
import Retint.Shell.Tool.Options

/-!
# Expressions as arguments

A tool whose arguments are an expression, each operand and operator an argument of its own. A value
is a text, which can be a number.

## Main definitions

* `Expression.isNull` — whether a value counts as nothing
* `Expression.matchStart` — what a regular expression matches at the start of a text
* `Expression.value` — the value of arguments
* `Tool.expr`

## Implementation notes

An expression is evaluated while it is read. The other side of a disjunction or conjunction that is
decided is read without being evaluated.
-/

namespace Retint.Shell.Tool

namespace Expression

/-- The number that a text writes, with no white space in it. -/
def number? (t : Text) : Option Int :=
  match t with
  | '-' :: rest => (Raw.natural? rest).map fun n => -(n : Int)
  | t => (Raw.natural? t).map fun n => (n : Int)

/-- Whether a value counts as nothing: an empty text or zero. -/
def isNull (t : Text) : Bool :=
  match t with
  | [] => true
  | '-' :: rest => !rest.isEmpty && rest.all (· == '0')
  | t => t.all (· == '0')

/-- Why arguments have no value. -/
inductive Fault
  | syntaxError (message : Text)
  | other (message : Text)
deriving DecidableEq, Repr

/-- The arguments that are left, and the last one before them. -/
structure State where
  rest : List Text
  last : Text := []

abbrev Evaluation := StateT State (Except Fault)

namespace Evaluation

def fail {α : Type} (message : Text) : Evaluation α := throw (.other message)

/-- Gives up because of how the arguments follow each other. -/
def misplaced {α : Type} (message : Text) : Evaluation α := throw (.syntaxError message)

/-- A text in quotes. -/
def quote (t : Text) : Text := '\'' :: t ++ ['\'']

/-- The next argument. -/
def next : Evaluation Text := do
  let s ← get
  match s.rest with
  | [] => misplaced ("missing argument after ".toList ++ quote s.last)
  | a :: rest => do
    set { s with rest := rest, last := a }
    return a

/-- The next argument if it is one of some operators; it is used up. -/
def operator? (operators : List String) : Evaluation (Option Text) := do
  match (← get).rest with
  | [] => return none
  | a :: _ =>
    if operators.any (·.toList = a) then
      let _ ← next
      return some a
    else return none

def integer (t : Text) : Evaluation Int := do
  match number? t with
  | some n => return n
  | none => fail "non-integer argument".toList

end Evaluation

open Evaluation

/-- What a regular expression matches at the start of a text: its first group if it has one, else
the number of characters. -/
def matchStart (t pattern : Text) : Evaluation Text := do
  match Regex.read .basic pattern with
  | .error message => fail message.toList
  | .ok (r, groups) =>
    let s : Regex.Subject := { chars := t.toArray }
    match Regex.run s r.refers r { place := 0 } with
    | w :: _ =>
      return if groups = 0 then Raw.decimal w.place
        else (Regex.Match.mk 0 w.place w.groups).text s 1
    | [] => return if groups = 0 then ['0'] else []

/-- The value of a comparison: of numbers if both texts are numbers. -/
def compare (relation a b : Text) : Bool :=
  let (isLess, isEqual) := match number? a, number? b with
    | some x, some y => (decide (x < y), decide (x = y))
    | _, _ => (Text.le a b && a != b, a == b)
  match String.ofList relation with
  | "<" => isLess
  | "<=" => isLess || isEqual
  | "=" | "==" => isEqual
  | "!=" => !isEqual
  | ">=" => !isLess
  | _ => !isLess && !isEqual

def ofBool (b : Bool) : Text := if b then ['1'] else ['0']

/-- The value of an operator on numbers. -/
def calculate (operator : Text) (a b : Text) : Evaluation Text := do
  let x ← integer a
  let y ← integer b
  match String.ofList operator with
  | "+" => return Raw.decimal (x + y)
  | "-" => return Raw.decimal (x - y)
  | "*" => return Raw.decimal (x * y)
  | "/" => if y = 0 then fail "division by zero".toList else return Raw.decimal (x.tdiv y)
  | _ => if y = 0 then fail "division by zero".toList else return Raw.decimal (x.tmod y)

/-- The characters from a position on, at most so many; positions start at one. -/
def part (t first count : Text) : Text :=
  match number? first, number? count with
  | some i, some n => if i ≤ 0 ∨ n ≤ 0 then [] else (t.drop (i - 1).toNat).take n.toNat
  | _, _ => []

/-- The position of the first character that is among some others. -/
def position (t among : Text) : Text :=
  match t.findIdx? fun c => c ∈ among with
  | some i => Raw.decimal (i + 1 : Nat)
  | none => ['0']

/-- The operators with two operands by how tightly they bind, the tightest ones first. -/
def levels : List (List String) :=
  [[":"], ["*", "/", "%"], ["+", "-"], ["<", "<=", "=", "==", "!=", ">=", ">"], ["&"], ["|"]]

/-- The value of an operator. -/
def apply (counts : Bool) (operator a b : Text) : Evaluation Text := do
  match String.ofList operator with
  | "|" => return if !isNull a then a else if !isNull b then b else ['0']
  | "&" => return if isNull a || isNull b then ['0'] else a
  | ":" => if counts then matchStart a b else return a
  | "<" | "<=" | "=" | "==" | "!=" | ">=" | ">" => return ofBool (compare operator a b)
  | _ => if counts then calculate operator a b else return a

mutual

/-- The value of an expression of a level: a number of operators from the tightest ones on. -/
def value : Nat → Nat → Bool → Evaluation Text
  | 0, _, _ => fail "expression too long".toList
  | fuel + 1, 0, counts => call fuel counts
  | fuel + 1, level + 1, counts => do
    let a ← value fuel level counts
    values fuel level counts a

/-- Goes on from a first operand with the operators of a level. -/
def values : Nat → Nat → Bool → Text → Evaluation Text
  | 0, _, _, _ => fail "expression too long".toList
  | fuel + 1, level, counts, a => do
    match ← operator? (levels.getD level []) with
    | none => return a
    | some operator => do
      let matters := if operator = ['|'] then isNull a else if operator = ['&'] then !isNull a
        else true
      let b ← value fuel level (counts && matters)
      values fuel level counts (← apply counts operator a b)

/-- The value of a word for an operation on texts, or of a single operand. -/
def call : Nat → Bool → Evaluation Text
  | 0, _ => fail "expression too long".toList
  | fuel + 1, counts => do
    match ← operator? ["+", "length", "match", "index", "substr", "(", ")"] with
    | none => next
    | some word =>
      match String.ofList word with
      | "+" => next
      | "length" => do
        let t ← call fuel counts
        return Raw.decimal t.length
      | "match" => do
        let t ← call fuel counts
        let pattern ← call fuel counts
        if counts then matchStart t pattern else return t
      | "index" => do
        let t ← call fuel counts
        return position t (← call fuel counts)
      | "substr" => do
        let t ← call fuel counts
        let first ← call fuel counts
        return part t first (← call fuel counts)
      | "(" => do
        let a ← value fuel levels.length counts
        match (← get).rest with
        | [] => misplaced ("expecting ')' after ".toList ++ quote (← get).last)
        | [')'] :: _ => do
          let _ ← next
          return a
        | b :: _ => misplaced ("expecting ')' instead of ".toList ++ quote b)
      | _ => misplaced "unexpected ')'".toList

end

/-- The value of arguments. -/
def ofArguments (arguments : List Text) : Except Fault Text := do
  let (a, s) ← (value (20 * arguments.length + 20) levels.length true).run { rest := arguments }
  match s.rest with
  | [] => return a
  | b :: _ => throw (.syntaxError ("unexpected argument ".toList ++ Evaluation.quote b))

end Expression

variable {m : Type → Type} [Monad m]

def expr : Tool m := fun arguments => do
  let arguments := if arguments.head? = some "--".toList then arguments.tail else arguments
  if arguments.isEmpty then
    misuse "expr" "missing operand".toList
    return 2
  else
    match Expression.ofArguments arguments with
    | .ok a => do
      Run.put (a ++ ['\n'])
      return if Expression.isNull a then 1 else 0
    | .error (.syntaxError message) => do
      Run.say "expr".toList ("syntax error: ".toList ++ message)
      return 2
    | .error (.other message) => do
      Run.say "expr".toList message
      return 2

end Retint.Shell.Tool
