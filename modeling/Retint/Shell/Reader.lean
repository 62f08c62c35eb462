import Retint.Shell.Source

/-!
# Reading shell scripts

A script is read command by command: what comes before a mistake can be run all the same. Words and
commands are read together, since a word can hold commands.

## Main definitions

* `Shell.Reader.pieces`, `dollar`, `token` — reading words and tokens
* `Shell.Reader.command`, `block` — reading commands
* `Shell.Script.ofText` — the script that a text is

## Implementation notes

A first argument of type `Nat` bounds the number of steps. No chain of steps takes more than a few
for a character, so the bound in `Script.ofText` is never reached.
-/

namespace Retint.Shell.Reader

open Reading

/-! ### Pieces without commands in them -/

/-- The name in the braces of a parameter, with the sign of a length before it if there is one. -/
def bracedName? (t : Text) : Option (Bool × Text) :=
  match t with
  | '#' :: c :: rest =>
    if Raw.startsName c then some (true, c :: rest.takeWhile Raw.continuesName)
    else if c.isDigit then some (true, c :: rest.takeWhile Char.isDigit)
    else if isShortName c ∧ rest.head? = some '\x7d' then some (true, [c])
    else some (false, ['#'])
  | c :: rest =>
    if Raw.startsName c then some (false, c :: rest.takeWhile Raw.continuesName)
    else if c.isDigit then some (false, c :: rest.takeWhile Char.isDigit)
    else if isShortName c then some (false, [c])
    else none
  | [] => none

/-- The script between backquotes, from after the first one up to the last one. A backslash goes if
it takes the meaning of the next character away. -/
def backquoted (quoted : Bool) : Text → Option (Text × Nat)
  | [] => none
  | '\x60' :: _ => some ([], 0)
  | '\\' :: '\n' :: rest => (backquoted quoted rest).map fun (t, n) => (t, n + 2)
  | '\\' :: c :: rest =>
    (backquoted quoted rest).map fun (t, n) =>
      (if "\\\x60$".toList.contains c || (quoted && c == '"') then c :: t else '\\' :: c :: t,
        n + 2)
  | c :: rest => (backquoted quoted rest).map fun (t, n) => (c :: t, n + 1)

/-- What a backslash stands for together with the character after it. -/
def escaped (mode : Mode) : Reading Piece := do
  skip 1
  match (← get).rest with
  | [] => return .literal true ['\\']
  | c :: _ => do
    skip 1
    return .literal true (if mode.canEscape c then [c] else ['\\', c])

/-- A text in single quotes. -/
def singleQuoted : Reading Piece := do
  skip 1
  let t ← takeWhile (· != '\'')
  if (← get).rest.isEmpty then fail "Unterminated quoted string".toList
  else
    skip 1
    return .literal true t

/-- The pieces with neighbouring literals put together. -/
def merge : Word → Word
  | .literal q t :: rest =>
    match merge rest with
    | .literal r u :: more =>
      if q = r then .literal q (t ++ u) :: more else .literal q t :: .literal r u :: more
    | more => .literal q t :: more
  | p :: rest => p :: merge rest
  | [] => []

/-- Gives up a script that takes more steps than allowed. -/
def tooLong {α : Type} : Reading α := fail "script too long".toList

/-- Says that a token is not expected here. -/
def unexpected {α : Type} (t : Token) : Reading α := fail (t.description ++ " unexpected".toList)

/-- Says that a token is not expected here, and which one is. -/
def expected {α : Type} (t : Token) (wanted : String) : Reading α :=
  fail (t.description ++ " unexpected (expecting \"".toList ++ wanted.toList ++ "\")".toList)

/-- A name and the word after the equals sign, if a word is an assignment. -/
def assignment? : Word → Option (Text × Word)
  | .literal false t :: rest => do
    let (name, value) ← Text.cut? '=' t
    if Raw.isName name then
      some (name, if value.isEmpty then rest else .literal false value :: rest)
    else none
  | _ => none

/-- The redirection that a kind and a word stand for, unless it is a text. -/
def redirection (stream : Nat) (kind : Text) (w : Word) : Redirection :=
  match String.ofList kind with
  | ">" | ">|" => .file stream .write w
  | ">>" => .file stream .append w
  | "<>" => .file stream .both w
  | "<" => .file stream .read w
  | _ => .copy stream w

/-- The names of the commands whose name a function cannot have. -/
def special : List Text :=
  [".", ":", "break", "continue", "eval", "exec", "exit", "export", "readonly", "return", "set",
    "shift", "times", "trap", "unset"].map String.toList

/-- What has been read of a simple command. -/
structure Draft where
  assignments : List (Text × Word) := []
  words : List Word := []
  redirections : List Redirection := []

/-- The command of a draft. -/
def Draft.command (d : Draft) (line : Nat) : Command :=
  .simple line d.assignments d.words d.redirections

/-- The commands one after the other. -/
def sequence : Command → Command → Command
  | .skip, c => c
  | c, d => .sequence c d

/-- Uses the token up that has been looked at. -/
def drop : Reading Unit := modify fun s => { s with next := none }

/-! ### Words, tokens and commands -/

mutual

/-- The pieces of a part of a word, up to what ends it. -/
def pieces : Nat → Mode → Reading Word
  | 0, _ => tooLong
  | fuel + 1, mode => do
    match (← get).rest with
    | [] =>
      match mode.unclosed? with
      | some message => fail message
      | none => return []
    | c :: rest =>
      if mode.endsBefore c then return []
      else
        match c, mode with
        | '\\', _ =>
          if rest.head? = some '\n' then
            skip 2
            pieces fuel mode
          else
            let p ← escaped mode
            return p :: (← pieces fuel mode)
        | '$', _ => do
          skip 1
          let p ← dollar fuel mode
          return p :: (← pieces fuel mode)
        | '\x60', _ => do
          let p ← backquote fuel mode
          return p :: (← pieces fuel mode)
        | '\'', .plain | '\'', .braces false => do
          let p ← singleQuoted
          return p :: (← pieces fuel mode)
        | '"', .plain | '"', .braces false => do
          skip 1
          let w ← pieces fuel .quotes
          skip 1
          return .literal true [] :: w ++ (← pieces fuel mode)
        | '"', .braces true | '"', .arithmetic _ => do
          skip 1
          pieces fuel mode
        | '(', .arithmetic depth => do
          skip 1
          return .literal true [c] :: (← pieces fuel (.arithmetic (depth + 1)))
        | ')', .arithmetic depth => do
          skip 1
          return .literal true [c] :: (← pieces fuel (.arithmetic (depth - 1)))
        | _, _ => do
          let t ← takeWhile mode.isOrdinary
          if t.isEmpty then
            skip 1
            return .literal mode.quoted [c] :: (← pieces fuel mode)
          else return .literal mode.quoted t :: (← pieces fuel mode)

/-- What a dollar sign begins. One that begins nothing is itself. -/
def dollar : Nat → Mode → Reading Piece
  | 0, _ => tooLong
  | fuel + 1, mode => do
    match ← text with
    | '(' :: rest =>
      skip 1
      if (← text).head? = some '(' ∧ rest ≠ [] then
        skip 1
        let w ← pieces fuel (.arithmetic 0)
        skip 1
        if (← get).rest.head? = some ')' then
          skip 1
          return .arithmetic mode.quoted (merge w)
        else fail "Missing '))'".toList
      else
        let s ← get
        set { s with next := none }
        let body ← block fuel true
        match ← peek fuel with
        | .operator [')'] => do
          modify fun t => { t with next := s.next }
          return .output mode.quoted body
        | t => expected t ")"
    | '\x7b' :: _ => do
      skip 1
      let _ ← text
      braced fuel mode
    | c :: rest =>
      if Raw.startsName c then
        let name := c :: rest.takeWhile Raw.continuesName
        skip name.length
        return .parameter mode.quoted name .value
      else if isShortName c then
        skip 1
        return .parameter mode.quoted [c] .value
      else return .literal mode.quoted ['$']
    | [] => return .literal mode.quoted ['$']

/-- A parameter in braces, from after the first brace on. -/
def braced : Nat → Mode → Reading Piece
  | 0, _ => tooLong
  | fuel + 1, mode => do
    match bracedName? (← get).rest with
    | none => invalid fuel mode []
    | some (true, name) => do
      skip (name.length + 1)
      match ← text with
      | '\x7d' :: _ => do
        skip 1
        return .parameter mode.quoted name .length
      | _ => invalid fuel mode name
    | some (false, name) => do
      skip name.length
      let t ← text
      let (alsoEmpty, t) := match t with
        | ':' :: rest => (true, rest)
        | t => (false, t)
      let sign := t.headD ' '
      if sign = '\x7d' ∧ !alsoEmpty then
        skip 1
        return .parameter mode.quoted name .value
      else if "-=?+".toList.contains sign then
        skip (if alsoEmpty then 2 else 1)
        let w ← pieces fuel (.braces mode.quoted)
        skip 1
        let w := merge w
        return .parameter mode.quoted name <|
          match sign with
          | '-' => .default alsoEmpty w
          | '=' => .assign alsoEmpty w
          | '?' => .demand alsoEmpty w
          | _ => .alternative alsoEmpty w
      else if (sign = '#' ∨ sign = '%') ∧ !alsoEmpty then
        let longest := t.tail.head? = some sign
        skip (if longest then 2 else 1)
        let w ← pieces fuel (.braces false)
        skip 1
        return .parameter mode.quoted name (.trim (sign = '%') longest (merge w))
      else invalid fuel mode name

/-- The rest of a parameter in braces that is none. -/
def invalid : Nat → Mode → Text → Reading Piece
  | 0, _, _ => tooLong
  | fuel + 1, mode, name => do
    let _ ← pieces fuel (.braces mode.quoted)
    skip 1
    return .parameter mode.quoted name .invalid

/-- The commands between backquotes. -/
def backquote : Nat → Mode → Reading Piece
  | 0, _ => tooLong
  | fuel + 1, mode => do
    skip 1
    match backquoted mode.quoted (← get).rest with
    | none => do
      skip (← get).rest.length
      fail "EOF in backquote substitution".toList
    | some (script, n) => do
      skip (n + 1)
      return .output mode.quoted (← within script 1 (block fuel true))

/-- The next token, which is used up. -/
def token : Nat → Reading Token
  | 0 => tooLong
  | fuel + 1 => do
    let _ ← takeWhile Raw.isBlank
    match (← get).rest with
    | [] => return .finish
    | '\\' :: '\n' :: _ => do
      skip 2
      token fuel
    | '#' :: _ => do
      let _ ← takeWhile (· != '\n')
      token fuel
    | '\n' :: _ => do
      skip 1
      return .lineEnd
    | t =>
      match redirection? t with
      | some (stream, kind, n) => do
        skip n
        return .redirect stream kind
      | none =>
        match lead? operators t with
        | some o => do
          skip o.length
          return .operator o
        | none => return .word (merge (← pieces fuel .plain))

/-- The next token, which stays there. -/
def peek : Nat → Reading Token
  | 0 => tooLong
  | fuel + 1 => do
    match (← get).next with
    | some t => return t
    | none => do
      let t ← token fuel
      modify fun s => { s with next := some t }
      return t

/-- The next token after line ends, which stays there. -/
def peekPast : Nat → Reading Token
  | 0 => tooLong
  | fuel + 1 => do
    match ← peek fuel with
    | .lineEnd => do
      drop
      peekPast fuel
    | t => return t

/-- Uses a sign up that must come next. -/
def expect : Nat → String → Reading Unit
  | 0, _ => tooLong
  | fuel + 1, wanted => do
    let t ← peek fuel
    if t.sign? = some wanted.toList then drop else expected t wanted

/-- The rest of a redirection, from after its sign on. -/
def redirected : Nat → Nat → Text → Reading Redirection
  | 0, _, _ => tooLong
  | fuel + 1, stream, kind => do
    match ← peek fuel with
    | .word w => do
      drop
      if kind = "<<".toList ∨ kind = "<<-".toList then
        let s ← get
        let (content, rest, n) := cutText (written w) (kind.length = 3) s.rest
        set { s with rest := rest, ahead := s.ahead + n }
        if hasQuotes w then return .text stream [.literal true content]
        else return .text stream (merge (← within content (s.line + 1) (pieces fuel .text)))
      else return redirection stream kind w
    | t => unexpected t

/-- The redirections that follow a command. -/
def redirections : Nat → Reading (List Redirection)
  | 0 => tooLong
  | fuel + 1 => do
    match ← peek fuel with
    | .redirect stream kind => do
      drop
      let r ← redirected fuel stream kind
      return r :: (← redirections fuel)
    | _ => return []

/-- A simple command or the definition of a function, from the next word on. -/
def simple : Nat → Nat → Draft → Reading Command
  | 0, _, _ => tooLong
  | fuel + 1, line, d => do
    match ← peek fuel with
    | .redirect stream kind => do
      drop
      let r ← redirected fuel stream kind
      simple fuel line { d with redirections := d.redirections ++ [r] }
    | .word w => do
      drop
      match if d.words.isEmpty then assignment? w else none with
      | some a => simple fuel line { d with assignments := d.assignments ++ [a] }
      | none => simple fuel line { d with words := d.words ++ [w] }
    | .operator ['('] =>
      match d with
      | ⟨[], [w], []⟩ => do
        drop
        match ← peek fuel with
        | .operator [')'] => do
          drop
          match plain? w with
          | some name =>
            if Raw.isName name && !special.contains name then
              let _ ← peekPast fuel
              return .function line name (← command fuel)
            else fail "Bad function name".toList
          | none => fail "Bad function name".toList
        | t => expected t ")"
      | _ => return d.command line
    | _ => return d.command line

/-- One command with its redirections. -/
def command : Nat → Reading Command
  | 0 => tooLong
  | fuel + 1 => do
    let t ← peek fuel
    let line := (← get).line
    match t.sign?.map String.ofList with
    | some "if" => do
      drop
      let c ← conditional fuel
      compound fuel line c
    | some "while" => do
      drop
      let test ← block fuel false
      expect fuel "do"
      let body ← block fuel false
      expect fuel "done"
      compound fuel line (.loop false test body)
    | some "until" => do
      drop
      let test ← block fuel false
      expect fuel "do"
      let body ← block fuel false
      expect fuel "done"
      compound fuel line (.loop true test body)
    | some "for" => do
      drop
      let c ← each fuel line
      compound fuel line c
    | some "case" => do
      drop
      let c ← choice fuel line
      compound fuel line c
    | some "(" => do
      drop
      let body ← block fuel false
      expect fuel ")"
      return .subshell line body (← redirections fuel)
    | some "\x7b" => do
      drop
      let body ← block fuel false
      expect fuel "\x7d"
      compound fuel line body
    | some _ => unexpected t
    | none =>
      match t with
      | .word _ | .redirect .. => simple fuel line {}
      | t => unexpected t

/-- A compound command with the redirections that follow it. -/
def compound : Nat → Nat → Command → Reading Command
  | 0, _, _ => tooLong
  | fuel + 1, line, c => do
    match ← redirections fuel with
    | [] => return c
    | rs => return .redirected line c rs

/-- A conditional, from after its first word on. -/
def conditional : Nat → Reading Command
  | 0 => tooLong
  | fuel + 1 => do
    let test ← block fuel false
    expect fuel "then"
    let yes ← block fuel false
    match (← peek fuel).sign?.map String.ofList with
    | some "elif" => do
      drop
      return .conditional test yes (← conditional fuel)
    | some "else" => do
      drop
      let no ← block fuel false
      expect fuel "fi"
      return .conditional test yes no
    | _ => do
      expect fuel "fi"
      return .conditional test yes .skip

/-- A loop over words, from after its first word on. Without words it goes over the arguments. -/
def each : Nat → Nat → Reading Command
  | 0, _ => tooLong
  | fuel + 1, line => do
    match ← peek fuel with
    | .word w =>
      match (plain? w).filter Raw.isName with
      | none => fail "Bad for loop variable".toList
      | some name => do
        drop
        match (← peekPast fuel).sign?.map String.ofList with
        | some "in" => do
          drop
          let ws ← wordList fuel
          match ← peek fuel with
          | .lineEnd | .operator [';'] => drop
          | t => unexpected t
          eachBody fuel line name ws
        | some ";" => do
          drop
          eachBody fuel line name [[.parameter true ['@'] .value]]
        | _ => eachBody fuel line name [[.parameter true ['@'] .value]]
    | _ => fail "Bad for loop variable".toList

/-- The body of a loop over words. -/
def eachBody : Nat → Nat → Text → List Word → Reading Command
  | 0, _, _, _ => tooLong
  | fuel + 1, line, name, ws => do
    let _ ← peekPast fuel
    expect fuel "do"
    let body ← block fuel false
    expect fuel "done"
    return .each line name ws body

/-- The words up to a token of another kind. -/
def wordList : Nat → Reading (List Word)
  | 0 => tooLong
  | fuel + 1 => do
    match ← peek fuel with
    | .word w => do
      drop
      return w :: (← wordList fuel)
    | _ => return []

/-- A choice, from after its first word on. -/
def choice : Nat → Nat → Reading Command
  | 0, _ => tooLong
  | fuel + 1, line => do
    match ← peek fuel with
    | .word subject => do
      drop
      let _ ← peekPast fuel
      expect fuel "in"
      return .choice line subject (← branches fuel)
    | t => fail (t.description ++ " unexpected (expecting word)".toList)

/-- The branches of a choice and the word after them. -/
def branches : Nat → Reading (List (List Word × Command))
  | 0 => tooLong
  | fuel + 1 => do
    let t ← peekPast fuel
    if t.sign? = some "esac".toList then
      drop
      return []
    else
      if t.sign? = some ['('] then drop
      let ws ← patterns fuel
      let body ← block fuel true
      let t ← peekPast fuel
      if t.sign? = some "esac".toList then
        drop
        return [(ws, body)]
      else if t.sign? = some ";;".toList then
        drop
        return (ws, body) :: (← branches fuel)
      else expected t ";;"

/-- The patterns of a branch and the parenthesis after them. -/
def patterns : Nat → Reading (List Word)
  | 0 => tooLong
  | fuel + 1 => do
    match ← peek fuel with
    | .word w => do
      drop
      match ← peek fuel with
      | .operator ['|'] => do
        drop
        return w :: (← patterns fuel)
      | .operator [')'] => do
        drop
        return [w]
      | t => expected t ")"
    | t => expected t ")"

/-- Commands each of which reads what the one before it writes. -/
def pipeline : Nat → Reading (List Command)
  | 0 => tooLong
  | fuel + 1 => do
    let _ ← peekPast fuel
    let c ← command fuel
    match ← peek fuel with
    | .operator ['|'] => do
      drop
      return c :: (← pipeline fuel)
    | _ => return [c]

/-- A pipeline, which may be negated. -/
def negated : Nat → Reading Command
  | 0 => tooLong
  | fuel + 1 => do
    let isNegated := (← peek fuel).sign? = some ['!']
    if isNegated then drop
    if isNegated ∧ (← peek fuel) matches .lineEnd then unexpected .lineEnd
    else
      let c := match ← pipeline fuel with
        | [c] => c
        | cs => .pipeline cs
      return if isNegated then .negation c else c

/-- Pipelines that are run if those before them succeed or fail. -/
def andOr : Nat → Reading Command
  | 0 => tooLong
  | fuel + 1 => do
    let c ← negated fuel
    andOrRest fuel c

/-- What follows a command that is run if it succeeds or fails. -/
def andOrRest : Nat → Command → Reading Command
  | 0, _ => tooLong
  | fuel + 1, c => do
    match ← peek fuel with
    | .operator ['&', '&'] => do
      drop
      let _ ← peekPast fuel
      let d ← negated fuel
      andOrRest fuel (.both c d)
    | .operator ['|', '|'] => do
      drop
      let _ ← peekPast fuel
      let d ← negated fuel
      andOrRest fuel (.either c d)
    | _ => return c

/-- The commands up to a word or sign that ends a list. -/
def block : Nat → Bool → Reading Command
  | 0, _ => tooLong
  | fuel + 1, mayBeEmpty => do
    let t ← peekPast fuel
    if (t matches .finish) || (mayBeEmpty && t.endsList) then return .skip
    else
      let c ← andOr fuel
      match ← peek fuel with
      | .operator ['&'] => do
        drop
        return sequence (.background c) (← block fuel true)
      | .operator [';'] => do
        drop
        return sequence c (← block fuel true)
      | .lineEnd => return sequence c (← block fuel true)
      | _ => return c

/-- The commands on a line. -/
def line : Nat → Reading Command
  | 0 => tooLong
  | fuel + 1 => do
    match ← peek fuel with
    | .lineEnd => do
      drop
      return .skip
    | .finish => return .skip
    | _ => do
      let c ← andOr fuel
      match ← peek fuel with
      | .operator ['&'] => do
        drop
        return sequence (.background c) (← line fuel)
      | .operator [';'] => do
        drop
        return sequence c (← line fuel)
      | .lineEnd => do
        drop
        return c
      | .finish => return c
      | t => unexpected t

end

/-- The commands of a script from a place on, line by line. -/
def lines (fuel : Nat) : Nat → Source → Script
  | 0, _ => ⟨[], none⟩
  | n + 1, s =>
    match (line fuel).run s with
    | .error mistake => ⟨[], some mistake⟩
    | .ok (c, t) =>
      if t.rest.isEmpty ∧ (t.next.isNone ∨ t.next matches some .finish) then ⟨[c], none⟩
      else
        let more := lines fuel n t
        { more with commands := c :: more.commands }

end Reader

/-- The script that a text is. -/
def Script.ofText (t : Text) : Script :=
  Reader.lines (20 * t.length + 100) (t.length + 1) { rest := t }

end Retint.Shell
