import Retint.Shell.Awk.Record
import Retint.Shell.Awk.Token

/-!
# Reading record programs

## Main definitions

* `Awk.Reader.expr`, `stmt`, `item` — reading expressions, what is done, and the parts of a program
* `Awk.Program.ofText` — the program that a text is

## Implementation notes

A first argument of type `Nat` bounds the number of steps. No chain of steps takes more than a few
for a token, so the bound in `Program.ofText` is never reached.
-/

namespace Retint.Shell.Awk.Reader

/-- What is around a statement. -/
structure Around where
  isInLoop : Bool := false
  isInFunction : Bool := false
  /-- Whether there is a current record that can be left. -/
  hasRecord : Bool := false
  isInBlock : Bool := false

/-- Reading from the tokens that are left. -/
abbrev Reading := ReaderT Around (StateT (List (Token × Nat)) (Except Mistake))

/-- What is not read as an operator here: a membership, or a comparison that would send output to a
file. -/
structure Without where
  isIn : Bool := false
  greater : Bool := false

/-! ### Tokens -/

def peek : Reading Token := do
  match ← get with
  | (t, _) :: _ => return t
  | [] => return .lineEnd

def drop : Reading Unit := modify List.tail

/-- Gives up at the current token. -/
def fail {α : Type} : Reading α := do
  match ← get with
  | [] => throw ⟨none, "syntax error at or near end of line".toList⟩
  | [(_, line)] =>
    if (← read).isInBlock then throw ⟨some line, "missing \x7d near end of file".toList⟩
    else throw ⟨some (line - 1), "syntax error at or near end of line".toList⟩
  | (t, line) :: _ => throw ⟨some line, "syntax error at or near ".toList ++ t.shown⟩

/-- Gives up with a message about the current line. -/
def refuse {α : Type} (message : Text) : Reading α := do
  throw ⟨(← get).head?.map Prod.snd, message⟩

/-- Uses up a word that has a meaning only in some places. -/
def dropIf (isAllowed : Bool) (message : String) : Reading Unit :=
  if isAllowed then drop else refuse message.toList

/-- Reads the body of a loop. -/
def inLoop {α : Type} (r : Reading α) : Reading α :=
  withReader (fun a => { a with isInLoop := true }) r

def isSign (t : Token) (s : String) : Bool :=
  match t with
  | .sign u => u = s.toList
  | _ => false

def isKeyword (t : Token) (s : String) : Bool :=
  match t with
  | .keyword u => u = s.toList
  | _ => false

/-- Uses up a sign if it comes next. -/
def accept (s : String) : Reading Bool := do
  let found := isSign (← peek) s
  if found then drop
  return found

/-- Uses up a sign, which must come next. -/
def expect (s : String) : Reading Unit := do
  if !(← accept s) then fail

/-- Skips line ends. -/
def skipLines : Nat → Reading Unit
  | 0 => return
  | fuel + 1 => do
    match ← peek with
    | .lineEnd =>
      if (← get).length ≤ 1 then return
      else
        drop
        skipLines fuel
    | _ => return

/-- Skips line ends and semicolons. -/
def skipEnds : Nat → Reading Unit
  | 0 => return
  | fuel + 1 => do
    match ← peek with
    | .lineEnd =>
      if (← get).length ≤ 1 then return
      else
        drop
        skipEnds fuel
    | t =>
      if isSign t ";" then
        drop
        skipEnds fuel

def lines : Reading Unit := do skipLines (← get).length

def ends : Reading Unit := do skipEnds (← get).length

/-- A name, which must come next. -/
def takeName : Reading Text := do
  match ← peek with
  | .name n => do
    drop
    return n
  | _ => fail

/-! ### Expressions -/

/-- Whether a value can be put where an expression is. -/
def isTarget : Expr → Bool
  | .name _ | .field _ | .element .. => true
  | _ => false

/-- Whether the operand of a concatenation can begin with a token. -/
def startsOperand (t : Token) : Bool :=
  match t with
  | .number _ | .text _ | .regex _ | .name _ | .called _ | .builtin _ => true
  | .sign s => ["(", "$", "!", "++", "--"].any (·.toList = s)
  | _ => false

/-- The assignments that combine the old value with the new one. -/
def updates : List (Text × BinaryOp) :=
  [("+=", .add), ("-=", .sub), ("*=", .mul), ("/=", .div), ("%=", .mod), ("^=", .power)].map
    fun (t, o) => (t.toList, o)

/-- The comparisons. -/
def relations : List (Text × Relation) :=
  [("<", .less), ("<=", .lessEqual), ("==", .equal), ("!=", .unequal), (">", .greater),
    (">=", .greaterEqual)].map fun (t, r) => (t.toList, r)

/-- The operator that comes next, if it is one of some. -/
def operator? {α : Type} (table : List (Text × α)) : Reading (Option α) := do
  match ← peek with
  | .sign s =>
    match table.lookup s with
    | some a => do
      drop
      return some a
    | none => return none
  | _ => return none

/-- A regular expression. -/
def regexOf (source : Text) : Reading Regex := do
  match Awk.regexOf source with
  | .ok r => return r
  | .error message => refuse message

/-- The expression of names in parentheses, which is a single one most of the time. -/
def grouped : List Expr → Expr
  | [e] => e
  | es => .several es

/-- Checks the number of the arguments of a built-in function. -/
def checkCount (function : Text) (n : Nat) : Reading Unit := do
  let (least, most) := (builtins.lookup function).getD (0, n)
  if n < least && strict.contains function then refuse "syntax error at or near )".toList
  if n < least || most < n then
    refuse ("wrong number of arguments in call to ".toList ++ function)

mutual

/-- An expression. -/
def expr : Nat → Without → Reading Expr
  | 0, _ => fail
  | fuel + 1, w => do
    let e ← choice fuel w
    if isTarget e then
      match ← operator? [(['='], none)] with
      | some (_ : Option Unit) => return .assign e (← expr fuel w)
      | none =>
        match ← operator? updates with
        | some o => return .update o e (← expr fuel w)
        | none => return e
    else return e

/-- Expressions with commas between them. -/
def exprs : Nat → Without → Reading (List Expr)
  | 0, _ => fail
  | fuel + 1, w => do
    let e ← expr fuel w
    if ← accept "," then
      lines
      return e :: (← exprs fuel w)
    else return [e]

/-- One of two expressions. -/
def choice : Nat → Without → Reading Expr
  | 0, _ => fail
  | fuel + 1, w => do
    let e ← disjunction fuel w
    if ← accept "?" then
      lines
      let yes ← expr fuel w
      lines
      expect ":"
      lines
      return .cond e yes (← expr fuel w)
    else return e

def disjunction : Nat → Without → Reading Expr
  | 0, _ => fail
  | fuel + 1, w => do
    let e ← conjunction fuel w
    if ← accept "||" then
      lines
      return .or e (← disjunction fuel w)
    else return e

def conjunction : Nat → Without → Reading Expr
  | 0, _ => fail
  | fuel + 1, w => do
    let e ← membership fuel w
    if ← accept "&&" then
      lines
      return .and e (← conjunction fuel w)
    else return e

def membership : Nat → Without → Reading Expr
  | 0, _ => fail
  | fuel + 1, w => do
    let e ← finding fuel w
    memberships fuel w e

/-- Goes on from an expression with memberships. -/
def memberships : Nat → Without → Expr → Reading Expr
  | 0, _, _ => fail
  | fuel + 1, w, e => do
    if !w.isIn && isKeyword (← peek) "in" then
      drop
      let array ← takeName
      let index := match e with
        | .several es => es
        | e => [e]
      memberships fuel w (.isIn index array)
    else return e

/-- Searches for regular expressions. -/
def finding : Nat → Without → Reading Expr
  | 0, _ => fail
  | fuel + 1, w => do
    let e ← comparison fuel w
    findings fuel w e

/-- Goes on from an expression with searches. -/
def findings : Nat → Without → Expr → Reading Expr
  | 0, _, _ => fail
  | fuel + 1, w, e => do
    match ← operator? [(['~'], false), (['!', '~'], true)] with
    | some isNegated => findings fuel w (.found isNegated e (← comparison fuel w))
    | none => return e

def comparison : Nat → Without → Reading Expr
  | 0, _ => fail
  | fuel + 1, w => do
    comparisons fuel w (← concatenation fuel w)

/-- Goes on from an expression with comparisons. -/
def comparisons : Nat → Without → Expr → Reading Expr
  | 0, _, _ => fail
  | fuel + 1, w, e => do
    let table := if w.greater then relations.filter (·.1 ≠ ['>']) else relations
    match ← operator? table with
    | some r => comparisons fuel w (.compare r e (← concatenation fuel w))
    | none => return e

/-- Goes on from a command whose output is read. -/
def fromCommands : Nat → Expr → Reading Expr
  | 0, _ => fail
  | fuel + 1, e => do
    match ← get with
    | (.sign ['|'], _) :: (.keyword k, _) :: rest =>
      if k = "getline".toList then
        set rest
        let target ← target? fuel
        fromCommands fuel (.nextLine target none (some e))
      else return e
    | _ => return e

def concatenation : Nat → Without → Reading Expr
  | 0, _ => fail
  | fuel + 1, w => do
    let e ← sum fuel w
    concatenations fuel w e

/-- Goes on from an expression with others right after it. -/
def concatenations : Nat → Without → Expr → Reading Expr
  | 0, _, _ => fail
  | fuel + 1, w, e => do
    if startsOperand (← peek) then
      let f ← sum fuel w
      concatenations fuel w (.concat e f)
    else return e

def sum : Nat → Without → Reading Expr
  | 0, _ => fail
  | fuel + 1, w => do
    let e ← product fuel w
    sums fuel w e

/-- Goes on from an expression with additions. -/
def sums : Nat → Without → Expr → Reading Expr
  | 0, _, _ => fail
  | fuel + 1, w, e => do
    match ← operator? [(['+'], BinaryOp.add), (['-'], .sub)] with
    | some o => do
      let f ← product fuel w
      sums fuel w (.binary o e f)
    | none => return e

def product : Nat → Without → Reading Expr
  | 0, _ => fail
  | fuel + 1, w => do
    let e ← signed fuel w
    products fuel w e

/-- Goes on from an expression with multiplications. -/
def products : Nat → Without → Expr → Reading Expr
  | 0, _, _ => fail
  | fuel + 1, w, e => do
    match ← operator? [(['*'], BinaryOp.mul), (['/'], .div), (['%'], .mod)] with
    | some o => do
      let f ← signed fuel w
      products fuel w (.binary o e f)
    | none => return e

/-- An expression after signs. -/
def signed : Nat → Without → Reading Expr
  | 0, _ => fail
  | fuel + 1, w => do
    if ← accept "!" then return .not (← signed fuel w)
    else if ← accept "-" then return .negative (← signed fuel w)
    else if ← accept "+" then return .positive (← signed fuel w)
    else power fuel w

def power : Nat → Without → Reading Expr
  | 0, _ => fail
  | fuel + 1, w => do
    let e ← fromCommands fuel (← stepped fuel w)
    if ← accept "^" then return .binary .power e (← signed fuel w)
    else return e

/-- An expression with a step after it. -/
def stepped : Nat → Without → Reading Expr
  | 0, _ => fail
  | fuel + 1, w => do
    let e ← primary fuel w
    if isTarget e then
      match ← operator? [(['+', '+'], true), (['-', '-'], false)] with
      | some isUp => return .step false isUp e
      | none => return e
    else return e

/-- A single operand. -/
def primary : Nat → Without → Reading Expr
  | 0, _ => fail
  | fuel + 1, w => do
    match ← peek with
    | .number x => do
      drop
      return .number x
    | .text t => do
      drop
      return .text t
    | .regex source => do
      let r ← regexOf source
      drop
      return .regex r
    | .name _ => place fuel
    | .called n => do
      drop
      return .call n (← arguments fuel)
    | .builtin n => do
      drop
      if isSign (← peek) "(" then
        let es ← arguments fuel
        checkCount n es.length
        return .apply n es
      else if n = "length".toList then return .apply n []
      else fail
    | .keyword n =>
      if n = "getline".toList then
        drop
        let target ← target? fuel
        if ← accept "<" then
          let file ← stepped fuel w
          return .nextLine target (some file) none
        else return .nextLine target none none
      else fail
    | .sign s =>
      if s = ['$'] then place fuel
      else if s = ['('] then
        drop
        lines
        let es ← exprs fuel {}
        lines
        expect ")"
        return grouped es
      else
        match ← operator? [(['+', '+'], true), (['-', '-'], false)] with
        | some isUp => return .step true isUp (← place fuel)
        | none => fail
    | .lineEnd => fail

/-- Where a value can be put. -/
def place : Nat → Reading Expr
  | 0 => fail
  | fuel + 1 => do
    match ← peek with
    | .name n => do
      drop
      if ← accept "[" then
        let index ← exprs fuel {}
        expect "]"
        return .element n index
      else return .name n
    | .sign ['$'] => do
      drop
      if ← accept "-" then return .field (.negative (← primary fuel {}))
      else
        match ← peek with
        | .name ['N', 'F'] => return .field (← stepped fuel {})
        | _ => return .field (← primary fuel {})
    | _ => fail

/-- Where the record that is read is put, if that is said. -/
def target? : Nat → Reading (Option Expr)
  | 0 => fail
  | fuel + 1 => do
    match ← peek with
    | .name _ | .sign ['$'] => return some (← place fuel)
    | _ => return none

/-- The arguments of a function in their parentheses. -/
def arguments : Nat → Reading (List Expr)
  | 0 => fail
  | fuel + 1 => do
    expect "("
    lines
    if ← accept ")" then return []
    else
      let es ← exprs fuel {}
      lines
      expect ")"
      return es

end

/-! ### What is done -/

/-- An empty statement. -/
def nothing : Stmt := .block []

/-- The end of a simple statement. -/
def finish : Reading Unit := do
  match ← peek with
  | .lineEnd => if 1 < (← get).length then drop
  | t =>
    if isSign t ";" then drop
    else if isSign t "\x7d" then return
    else fail

/-- Whether an expression is not there. -/
def isAbsent : Reading Bool := do
  match ← peek with
  | .lineEnd => return true
  | t => return isSign t ";" || isSign t "\x7d" || isSign t ")"

/-- An expression, if there is one. -/
def expr? (fuel : Nat) : Reading (Option Expr) := do
  if ← isAbsent then return none else return some (← expr fuel {})

/-- What is printed, and where it goes. -/
def printed (fuel : Nat) : Reading (List Expr × Option (Target × Expr)) := do
  let t ← peek
  let isEmpty := (← isAbsent) || isSign t ">" || isSign t "|" || isSign t ">>"
  let es ← if isEmpty then pure [] else exprs fuel { greater := true }
  let es := match es with
    | [.several es] => es
    | es => es
  match ← operator? [(['>'], Target.write), (['>', '>'], .append), (['|'], .command)] with
  | some target => return (es, some (target, ← concatenation fuel { greater := true }))
  | none => return (es, none)

/-- A statement on one line, without its end. -/
def simple (fuel : Nat) : Reading Stmt := do
  match ← peek with
  | .keyword k =>
    match String.ofList k with
    | "print" => do
      drop
      let (es, target) ← printed fuel
      return .print es target
    | "printf" => do
      drop
      let (es, target) ← printed fuel
      if es.isEmpty then refuse "no arguments in call to printf".toList
      return .printFormat es target
    | "next" => do
      dropIf (← read).hasRecord "improper use of next"
      return .next
    | "nextfile" => do
      dropIf (← read).hasRecord "improper use of nextfile"
      return .nextFile
    | "break" => do
      dropIf (← read).isInLoop "break statement outside of loop"
      return .leave
    | "continue" => do
      dropIf (← read).isInLoop "continue statement outside of loop"
      return .again
    | "exit" => do
      drop
      return .exit (← expr? fuel)
    | "return" => do
      dropIf (← read).isInFunction "return outside function body"
      return .giveBack (← expr? fuel)
    | "delete" => do
      drop
      let array ← takeName
      if ← accept "[" then
        let index ← exprs fuel {}
        expect "]"
        return .delete array (some index)
      else return .delete array none
    | "getline" => return .eval (← expr fuel {})
    | _ => fail
  | _ => return .eval (← expr fuel {})

mutual

/-- A statement with its end. -/
def stmt : Nat → Reading Stmt
  | 0 => fail
  | fuel + 1 => do
    match ← peek with
    | .sign s =>
      if s = ['\x7b'] then
        drop
        return .block (← stmts fuel)
      else if s = [';'] then
        drop
        return nothing
      else if s = ['\x7d'] then return nothing
      else simpleStmt fuel
    | .keyword k =>
      match String.ofList k with
      | "if" => do
        drop
        let test ← condition fuel
        lines
        let yes ← stmt fuel
        let saved ← get
        ends
        if isKeyword (← peek) "else" then
          drop
          lines
          return .cond test yes (← stmt fuel)
        else
          set saved
          return .cond test yes nothing
      | "while" => do
        drop
        let test ← condition fuel
        if ← accept ";" then return .loop test nothing
        else
          lines
          return .loop test (← inLoop (stmt fuel))
      | "do" => do
        drop
        lines
        let body ← inLoop (stmt fuel)
        ends
        if isKeyword (← peek) "while" then
          drop
          let test ← condition fuel
          finish
          return .loopAfter body test
        else fail
      | "for" => do
        drop
        counting fuel
      | _ => simpleStmt fuel
    | _ => simpleStmt fuel

/-- A statement on one line. -/
def simpleStmt : Nat → Reading Stmt
  | 0 => fail
  | fuel + 1 => do
    let s ← simple fuel
    finish
    return s

/-- A condition in parentheses. -/
def condition : Nat → Reading Expr
  | 0 => fail
  | fuel + 1 => do
    expect "("
    let e ← expr fuel {}
    lines
    expect ")"
    return grouped [e]

/-- A loop that counts or goes through an array, from after its first word on. -/
def counting : Nat → Reading Stmt
  | 0 => fail
  | fuel + 1 => do
    match ← get with
    | (.sign ['('], _) :: (.name n, _) :: (.keyword k, _) :: (.name array, _) ::
        (.sign [')'], _) :: rest => do
      if k = "in".toList then
        set rest
        lines
        return .each n array (← inLoop (stmt fuel))
      else fail
    | _ => do
      expect "("
      let start ← if isSign (← peek) ";" then pure nothing else simple fuel
      expect ";"
      lines
      let test ← expr? fuel
      expect ";"
      lines
      let step ← if isSign (← peek) ")" then pure nothing else simple fuel
      expect ")"
      if ← accept ";" then return .count start test step nothing
      else
        lines
        return .count start test step (← inLoop (stmt fuel))

/-- The statements up to a closing brace, which is used up. -/
def stmts : Nat → Reading (List Stmt)
  | 0 => fail
  | fuel + 1 => do
    ends
    if ← accept "\x7d" then return []
    else
      let s ← stmt fuel
      return s :: (← stmts fuel)

end

/-! ### Programs -/

/-- The names of parameters, up to the parenthesis after them. -/
def parameters : Nat → Reading (List Text)
  | 0 => fail
  | fuel + 1 => do
    lines
    if ← accept ")" then return []
    else
      let n ← takeName
      let _ ← accept ","
      return n :: (← parameters fuel)

/-- A block in braces. -/
def braced (fuel : Nat) : Reading Stmt := do
  expect "\x7b"
  withReader (fun a => { a with isInBlock := true }) (.block <$> stmts fuel)

/-- One part of a program. -/
def item (fuel : Nat) (p : Program) : Reading Program := do
  match ← peek with
  | .keyword k =>
    match String.ofList k with
    | "BEGIN" => do
      drop
      return { p with starts := p.starts ++ [← braced fuel] }
    | "END" => do
      drop
      return { p with ends := p.ends ++ [← braced fuel] }
    | "function" => do
      drop
      match ← peek with
      | .name n | .called n => do
        drop
        expect "("
        let names ← parameters fuel
        lines
        let body ← withReader (fun a => { a with isInFunction := true }) (braced fuel)
        return { p with functions := p.functions.insert n ⟨names, body⟩ }
      | _ => fail
    | "getline" => rule
    | _ => fail
  | _ => rule
where
  /-- A pattern and what is done for it. -/
  rule : Reading Program := do
    let pattern ← if isSign (← peek) "\x7b" then pure Pattern.always else do
      let e ← expr fuel {}
      if ← accept "," then
        lines
        pure (Pattern.range e (← expr fuel {}))
      else pure (Pattern.test e)
    let action ← if isSign (← peek) "\x7b" then
        some <$> withReader (fun a => { a with hasRecord := true }) (braced fuel)
      else pure none
    return { p with rules := p.rules ++ [⟨pattern, action⟩] }

/-- The parts of a program. -/
def items (fuel : Nat) : Nat → Program → Reading Program
  | 0, p => return p
  | n + 1, p => do
    ends
    if (← get).length ≤ 1 then return p
    else items fuel n (← item fuel p)

end Reader

/-- The program that a text is. -/
def Program.ofText (t : Text) : Except Mistake Program := do
  let ts ← tokens t
  let (p, _) ← ((Reader.items (40 * ts.length + 100) (ts.length + 1) {}).run {}).run ts
  let missing? := ts.findSome? fun (t, _) =>
    match t with
    | .called n => if p.functions.contains n then none else some n
    | _ => none
  match missing? with
  | some n =>
    throw ⟨ts.getLast?.map Prod.snd, "function ".toList ++ n ++ " never defined".toList⟩
  | none => return p

end Retint.Shell.Awk
