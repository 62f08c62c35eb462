import Retint.Dict
import Retint.Shell.Raw

/-!
# Arithmetic of the shell

Whole numbers of 64 bits with the operators of C. An expression is evaluated while it is read. A
part that does not count, such as the other branch of a choice, is read without effect.

## Main definitions

* `Arithmetic.wrap` — a number in 64 bits
* `Arithmetic.Operation`, `Operation.apply` — the operators with two operands
* `Arithmetic.Sign`, `signs` — the signs of an expression
* `Arithmetic.evaluate` — the value of an expression, and the variables it sets

## Main results

* `Arithmetic.wrap_of_range` — a number in range stands for itself
-/

namespace Retint.Shell.Arithmetic

/-! ### Numbers -/

/-- The number of 64 bits that a number stands for. -/
def wrap (n : Int) : Int := n.bmod 18446744073709551616

theorem wrap_of_range {n : Int} (h : -9223372036854775808 ≤ n) (h' : n < 9223372036854775808) :
    wrap n = n := by
  unfold wrap
  rw [Int.bmod_def]
  split <;> omega

/-- The bits of a number. -/
def bits (n : Int) : Nat := (n % 18446744073709551616).toNat

def ofBool (b : Bool) : Int := if b then 1 else 0

/-- The number that a text writes, in decimal, octal or hexadecimal digits, if it is one. -/
def number? (t : Text) : Option Int :=
  let t := t.dropWhile Raw.isSpace
  let (sign, t) : Int × Text := match t with
    | '-' :: rest => (-1, rest)
    | '+' :: rest => (1, rest)
    | t => (1, t)
  let (n, rest, isEmpty) : Nat × Text × Bool := match t with
    | '0' :: 'x' :: rest | '0' :: 'X' :: rest =>
      ((Raw.digits 16 rest).1, (Raw.digits 16 rest).2, (Raw.digits 16 rest).2 == rest)
    | '0' :: rest => ((Raw.digits 8 rest).1, (Raw.digits 8 rest).2, false)
    | t => ((Raw.digits 10 t).1, (Raw.digits 10 t).2, (Raw.digits 10 t).2 == t)
  if isEmpty || !(rest.dropWhile Raw.isSpace).isEmpty then none
  else some (max (-9223372036854775808) (min 9223372036854775807 (sign * n)))

/-! ### Operators -/

/-- The operators with two operands, those for truth values aside. -/
inductive Operation
  | mul | div | mod | add | sub | shiftLeft | shiftRight
  | less | lessEqual | greater | greaterEqual | equal | unequal | bitAnd | bitXor | bitOr
deriving DecidableEq, Repr

/-- How loosely an operator binds. -/
def Operation.level : Operation → Nat
  | mul | div | mod => 0
  | add | sub => 1
  | shiftLeft | shiftRight => 2
  | less | lessEqual | greater | greaterEqual => 3
  | equal | unequal => 4
  | bitAnd => 5
  | bitXor => 6
  | bitOr => 7

/-- More than the level of any operator. -/
def topLevel : Nat := 8

/-- The value of an operator, if it has one. -/
def Operation.apply (o : Operation) (a b : Int) : Option Int :=
  match o with
  | mul => some (wrap (a * b))
  | div => if b = 0 then none else some (wrap (a.tdiv b))
  | mod => if b = 0 then none else some (wrap (a.tmod b))
  | add => some (wrap (a + b))
  | sub => some (wrap (a - b))
  | shiftLeft => some (wrap (bits a <<< (bits b % 64) : Nat))
  | shiftRight => some (a >>> (bits b % 64))
  | less => some (ofBool (a < b))
  | lessEqual => some (ofBool (a ≤ b))
  | greater => some (ofBool (b < a))
  | greaterEqual => some (ofBool (b ≤ a))
  | equal => some (ofBool (a == b))
  | unequal => some (ofBool (a != b))
  | bitAnd => some (wrap (bits a &&& bits b : Nat))
  | bitXor => some (wrap (bits a ^^^ bits b : Nat))
  | bitOr => some (wrap (bits a ||| bits b : Nat))

/-! ### Signs -/

/-- A sign of an expression. -/
inductive Sign
  | number (n : Int)
  | name (t : Text)
  | operation (o : Operation)
  /-- An assignment, which may combine the old value with the new one. -/
  | assign (o : Option Operation)
  | both | either | not | complement | choose | colon | opening | closing
  /-- Something else. -/
  | bad
deriving DecidableEq, Repr

/-- The operators as they are written, a longer one before its beginning. -/
def operators : List (Text × Sign) :=
  [("<<=", .assign (some .shiftLeft)), (">>=", .assign (some .shiftRight)),
    ("<<", .operation .shiftLeft), (">>", .operation .shiftRight),
    ("<=", .operation .lessEqual), (">=", .operation .greaterEqual),
    ("==", .operation .equal), ("!=", .operation .unequal), ("&&", .both), ("||", .either),
    ("*=", .assign (some .mul)), ("/=", .assign (some .div)), ("%=", .assign (some .mod)),
    ("+=", .assign (some .add)), ("-=", .assign (some .sub)), ("&=", .assign (some .bitAnd)),
    ("^=", .assign (some .bitXor)), ("|=", .assign (some .bitOr)), ("=", .assign none),
    ("<", .operation .less), (">", .operation .greater), ("*", .operation .mul),
    ("/", .operation .div), ("%", .operation .mod), ("+", .operation .add),
    ("-", .operation .sub), ("&", .operation .bitAnd), ("^", .operation .bitXor),
    ("|", .operation .bitOr), ("!", .not), ("~", .complement), ("?", .choose), (":", .colon),
    ("(", .opening), (")", .closing)].map fun (t, s) => (t.toList, s)

/-- The sign at the start of a text, and the number of its characters. -/
def sign (t : Text) : Sign × Nat :=
  match t with
  | [] => (.bad, 1)
  | c :: _ =>
    if c.isDigit then
      let word := t.takeWhile Char.isAlphanum
      let isHex := Text.startsWith "0x".toList word || Text.startsWith "0X".toList word
      let digits := if isHex then
          word.take 2 ++ (word.drop 2).takeWhile (Text.hexDigit? · |>.isSome)
        else if c = '0' then word.takeWhile fun d => '0' ≤ d && d ≤ '7'
        else word.takeWhile Char.isDigit
      (match number? digits with
        | some n => .number n
        | none => .bad, digits.length)
    else if Raw.startsName c then
      let name := t.takeWhile Raw.continuesName
      (.name name, name.length)
    else
      match operators.find? fun o => Text.startsWith o.1 t with
      | some (o, s) => (s, o.length)
      | none => (.bad, 1)

/-- The signs of a text. -/
def signs : Nat → Text → List Sign
  | _, [] => []
  | skip + 1, _ :: rest => signs skip rest
  | 0, c :: rest =>
    if Raw.isSpace c then signs 0 rest
    else (sign (c :: rest)).1 :: signs ((sign (c :: rest)).2 - 1) rest

/-! ### Evaluation -/

/-- Why an expression has no value. -/
inductive Fault
  /-- The expression is wrong or divides by zero. -/
  | expression (message : String)
  /-- The value of a variable is no number. -/
  | number (value : Text)
deriving DecidableEq, Repr

/-- The signs that are left, and the values that variables have been given. -/
structure State where
  rest : List Sign
  assigned : Dict Text := .empty

abbrev Evaluation := StateT State (Except Fault)

namespace Evaluation

def fail {α : Type} (message : String) : Evaluation α := throw (.expression message)

def peek : Evaluation (Option Sign) := do return (← get).rest.head?

def drop : Evaluation Unit := modify fun s => { s with rest := s.rest.tail }

/-- The value of a variable as a number; one without a value is zero. -/
def lookup (outer : Text → Option Text) (name : Text) : Evaluation Int := do
  match ((← get).assigned.get? name).or (outer name) with
  | none => return 0
  | some value =>
    match number? value with
    | some n => return n
    | none => if value.all Raw.isSpace then return 0 else throw (.number value)

def assign (name : Text) (n : Int) : Evaluation Unit :=
  modify fun s => { s with assigned := s.assigned.insert name (Raw.decimal n) }

/-- The value of an operator; without effect it does not matter. -/
def combine (counts : Bool) (o : Operation) (a b : Int) : Evaluation Int :=
  if !counts then return b
  else
    match o.apply a b with
    | some n => return n
    | none => fail "division by zero"

end Evaluation

open Evaluation

mutual

/-- The value of a number, a variable, or an expression in parentheses, after signs. -/
def primary (outer : Text → Option Text) : Nat → Bool → Evaluation Int
  | 0, _ => fail "expression too long"
  | fuel + 1, counts => do
    let s ← peek
    drop
    match s with
    | some (.number n) => return n
    | some (.name name) => if counts then lookup outer name else return 0
    | some (.operation .add) => primary outer fuel counts
    | some (.operation .sub) => return wrap (-(← primary outer fuel counts))
    | some .not => return ofBool ((← primary outer fuel counts) == 0)
    | some .complement => return wrap (-(← primary outer fuel counts) - 1)
    | some .opening => do
      let n ← assignment outer fuel counts
      match ← peek with
      | some .closing => do
        drop
        return n
      | _ => fail "expecting ')'"
    | _ => fail "expecting primary"

/-- The value of operators that bind tighter than a level, given the first operand. -/
def operations (outer : Text → Option Text) : Nat → Nat → Int → Bool → Evaluation Int
  | 0, _, _, _ => fail "expression too long"
  | fuel + 1, level, a, counts => do
    match ← peek with
    | some (.operation o) =>
      if o.level < level then
        drop
        let b ← operations outer fuel o.level (← primary outer fuel counts) counts
        operations outer fuel level (← combine counts o a b) counts
      else return a
    | _ => return a

/-- The value of a conjunction. -/
def conjunction (outer : Text → Option Text) : Nat → Bool → Evaluation Int
  | 0, _ => fail "expression too long"
  | fuel + 1, counts => do
    let a ← operations outer fuel topLevel (← primary outer fuel counts) counts
    match ← peek with
    | some .both => do
      drop
      let b ← conjunction outer fuel (counts && a != 0)
      return ofBool (a != 0 && b != 0)
    | _ => return a

/-- The value of a disjunction. -/
def disjunction (outer : Text → Option Text) : Nat → Bool → Evaluation Int
  | 0, _ => fail "expression too long"
  | fuel + 1, counts => do
    let a ← conjunction outer fuel counts
    match ← peek with
    | some .either => do
      drop
      let b ← disjunction outer fuel (counts && a == 0)
      return ofBool (a != 0 || b != 0)
    | _ => return a

/-- The value of a choice. -/
def choice (outer : Text → Option Text) : Nat → Bool → Evaluation Int
  | 0, _ => fail "expression too long"
  | fuel + 1, counts => do
    let a ← disjunction outer fuel counts
    match ← peek with
    | some .choose => do
      drop
      let b ← assignment outer fuel (counts && a != 0)
      match ← peek with
      | some .colon => do
        drop
        let c ← choice outer fuel (counts && a == 0)
        return if a != 0 then b else c
      | _ => fail "expecting ':'"
    | _ => return a

/-- The value of an assignment, or of an expression without one. -/
def assignment (outer : Text → Option Text) : Nat → Bool → Evaluation Int
  | 0, _ => fail "expression too long"
  | fuel + 1, counts => do
    match (← get).rest with
    | .name name :: .assign o :: rest => do
      modify fun s => { s with rest := rest }
      let b ← assignment outer fuel counts
      if !counts then return b
      else
        let n ← match o with
          | none => pure b
          | some o => do combine true o (← lookup outer name) b
        assign name n
        return n
    | _ => choice outer fuel counts

end

/-- The value of an expression, and the values it gives to variables. The first argument says what
the variables are before. -/
def evaluate (outer : Text → Option Text) (expression : Text) :
    Except Fault (Int × List (Text × Text)) := do
  let all := signs 0 expression
  let (n, s) ← (assignment outer (10 * all.length + 10) true).run { rest := all }
  if s.rest.isEmpty then return (n, s.assigned.entries) else throw (.expression "expecting EOF")

end Retint.Shell.Arithmetic
