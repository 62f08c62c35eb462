import Retint.Dict
import Retint.Shell.Regex

/-!
# Programs for records

A program says what is done with the records of an input: for each record, the actions whose
patterns it meets. What a program is after it has been read is here.

## Main definitions

* `Awk.Expr` — expressions
* `Awk.Stmt` — what is done
* `Awk.Rule`, `Awk.Program` — programs
-/

namespace Retint.Shell.Awk

inductive BinaryOp
  | add | sub | mul | div | mod | power
deriving DecidableEq, Repr

inductive Relation
  | less | lessEqual | equal | unequal | greater | greaterEqual
deriving DecidableEq, Repr

inductive Expr
  | number (x : Float)
  | text (t : Text)
  /-- A regular expression; alone, whether the record has it. -/
  | regex (r : Regex)
  | name (n : Text)
  | field (index : Expr)
  | element (array : Text) (index : List Expr)
  | assign (target value : Expr)
  | update (o : BinaryOp) (target value : Expr)
  /-- A step up or down; the value is the one before it or after it. -/
  | step (isBefore isUp : Bool) (target : Expr)
  | cond (test yes no : Expr)
  | or (a b : Expr)
  | and (a b : Expr)
  | not (a : Expr)
  | isIn (index : List Expr) (array : Text)
  | found (isNegated : Bool) (a pattern : Expr)
  | compare (r : Relation) (a b : Expr)
  | concat (a b : Expr)
  | binary (o : BinaryOp) (a b : Expr)
  | negative (a : Expr)
  | positive (a : Expr)
  | call (function : Text) (arguments : List Expr)
  | apply (builtin : Text) (arguments : List Expr)
  /-- The next record of the input, of a file or of what a command writes. -/
  | nextLine (target file command : Option Expr)
  /-- Several expressions in parentheses. -/
  | several (es : List Expr)

/-- Where output goes. -/
inductive Target
  | write | append | command
deriving DecidableEq, Repr

inductive Stmt
  | eval (e : Expr)
  | print (arguments : List Expr) (target : Option (Target × Expr))
  | printFormat (arguments : List Expr) (target : Option (Target × Expr))
  | cond (test : Expr) (yes no : Stmt)
  | loop (test : Expr) (body : Stmt)
  | loopAfter (body : Stmt) (test : Expr)
  | count (start : Stmt) (test : Option Expr) (step body : Stmt)
  | each (name array : Text) (body : Stmt)
  | block (body : List Stmt)
  | next
  | nextFile
  | exit (status : Option Expr)
  | giveBack (value : Option Expr)
  | leave
  | again
  | delete (array : Text) (index : Option (List Expr))

/-- For which records something is done. -/
inductive Pattern
  | always
  | test (e : Expr)
  | range (start stop : Expr)

/-- What is done for some records; without an action, they are printed. -/
structure Rule where
  pattern : Pattern
  action : Option Stmt

structure Function where
  parameters : List Text
  body : Stmt

structure Program where
  /-- What is done before the first record, and after the last one. -/
  starts : List Stmt := []
  ends : List Stmt := []
  rules : List Rule := []
  functions : Dict Function := .empty

end Retint.Shell.Awk
