import Retint.Shell.Regex

/-!
# Scripts for editing lines

A script of editing commands: each has a letter, and may say for which lines it is meant.

## Main definitions

* `Edit.Place`, `Edit.Until`, `Edit.Selection` — for which lines a command is meant
* `Edit.Substitution`, `Edit.Action`, `Edit.Instruction` — what a command does
* `Edit.Script`, `Edit.Script.read` — reading a script

## Implementation notes

Blocks and labels are places in the list of instructions: the start of a block knows where the
block ends, and a jump looks its label up.
-/

namespace Retint.Shell.Edit

/-- A regular expression for lines; without one, the last one that was used is meant. -/
structure LinePattern where
  regex : Option (Regex × Nat)
  ignoresCase : Bool := false
  hasLines : Bool := false
deriving DecidableEq, Repr

/-- A line that a command is meant for. -/
inductive Place
  | line (n : Nat)
  /-- Every so many lines from a first one on. -/
  | every (step first : Nat)
  | last
  | found (p : LinePattern)
deriving DecidableEq, Repr

/-- Where a range of lines ends. -/
inductive Until
  | line (n : Nat)
  /-- So many lines later. -/
  | after (n : Nat)
  /-- At a multiple of a number. -/
  | multiple (n : Nat)
  | last
  | found (p : LinePattern)
deriving DecidableEq, Repr

/-- For which lines a command is meant. -/
structure Selection where
  first : Option Place := none
  stop : Option Until := none
  /-- Whether the range is open before the first line. -/
  isOpen : Bool := false
  isNegated : Bool := false
deriving DecidableEq, Repr

/-- The case of the letters that follow in a replacement. -/
inductive Case
  | upper | lower | nextUpper | nextLower | asIs
deriving DecidableEq, Repr

/-- A part of a replacement. -/
inductive Part
  | literal (t : Text)
  | group (n : Nat)
  | letters (c : Case)
deriving DecidableEq, Repr

structure Substitution where
  pattern : LinePattern
  template : List Part
  /-- The number of the first match that is replaced. -/
  number : Nat := 1
  isGlobal : Bool := false
  prints : Bool := false
  file : Option Text := none
deriving DecidableEq, Repr

/-- What becomes of the lines that are read. -/
inductive Action
  /-- The start of a block, and where to go on if its lines are others. -/
  | block (stop : Nat)
  | nothing
  | append (t : Text)
  | insert (t : Text)
  | change (t : Text)
  | jump (label : Text)
  /-- A jump if there was a substitution, or if there was none. -/
  | jumpIf (wasSubstituted : Bool) (label : Text)
  | delete
  | deleteFirst
  | recallHold
  | recallMore
  | hold
  | holdMore
  | exchange
  | showName
  | showVisibly (width : Option Nat)
  | showNumber
  | next
  | nextMore
  | print
  | printFirst
  | quit (status : Nat) (silently : Bool)
  | appendFile (name : Text)
  | appendLine (name : Text)
  | substitute (s : Substitution)
  | write (name : Text)
  | writeFirst (name : Text)
  | transliterate (table : List (Char × Char))
  | clear
deriving DecidableEq, Repr

structure Instruction where
  selection : Selection
  action : Action
deriving DecidableEq, Repr

/-- A script, with the places of its labels. -/
structure Script where
  instructions : Array Instruction := #[]
  labels : List (Text × Nat) := []
  isQuiet : Bool := false
deriving Repr

/-! ### Reading -/

/-- Why a script cannot be read, and after how many characters that is seen. -/
inductive Mistake
  | inScript (position : Nat) (message : Text)
  | label (name : Text)
deriving DecidableEq, Repr

/-- What is left of a script, how many characters have been read, and what has been read. -/
structure Source where
  rest : Text
  position : Nat := 0
  script : Script := {}
  /-- The starts of the blocks that are open, the innermost one first. -/
  blocks : List Nat := []
  dialect : Regex.Dialect := .basic

abbrev Reading := StateT Source (Except Mistake)

namespace Reading

def fail {α : Type} (message : String) : Reading α := do
  throw (.inScript (← get).position message.toList)

def peek : Reading (Option Char) := do return (← get).rest.head?

def skip (n : Nat) : Reading Unit :=
  modify fun s => { s with
    rest := s.rest.drop n, position := s.position + min n s.rest.length }

/-- The next character, which is used up. -/
def next : Reading (Option Char) := do
  let c ← peek
  skip 1
  return c

/-- Takes the characters that have a property. -/
def takeWhile (p : Char → Bool) : Reading Text := do
  let t := (← get).rest.takeWhile p
  skip t.length
  return t

def skipBlanks : Reading Unit := do
  let _ ← takeWhile Raw.isSpace

def number : Reading Nat := do return Text.ofDecimal (← takeWhile Char.isDigit)

end Reading

open Edit.Reading

/-- The length of a set in a regular expression, from after its opening bracket on. -/
def setLength (t : Text) : Nat :=
  let lead := match t with
    | '^' :: ']' :: _ => 2
    | '^' :: _ => 1
    | ']' :: _ => 1
    | _ => 0
  let rec go : Nat → Text → Nat
    | 0, _ | _, [] => 0
    | _ + 1, ']' :: _ => 1
    | n + 1, '[' :: c :: rest =>
      if ":.=".toList.contains c then
        let inside := (rest.takeWhile (· != ']')).length
        inside + 3 + go n (rest.drop (inside + 1))
      else 1 + go n (c :: rest)
    | n + 1, _ :: rest => 1 + go n rest
  lead + go (t.length + 1) (t.drop lead)

/-- The text up to a delimiter. Before the delimiter a backslash goes. In a regular expression, a
delimiter in a set does not count, and an escaped line feed is one. -/
def delimited (delimiter : Char) (isRegex : Bool) : Nat → Text → Option (Text × Text)
  | 0, _ | _, [] => none
  | fuel + 1, c :: rest =>
    if c = delimiter then some ([], rest)
    else if c = '\\' then
      match rest with
      | [] => none
      | d :: more =>
        (delimited delimiter isRegex fuel more).map fun (t, after) =>
          (if d = delimiter then d :: t
            else if d = 'n' ∧ isRegex then '\n' :: t
            else '\\' :: d :: t, after)
    else if c = '\n' ∧ isRegex then none
    else if c = '[' ∧ isRegex then
      let n := setLength rest
      (delimited delimiter isRegex fuel (rest.drop n)).map fun (t, after) =>
        (c :: rest.take n ++ t, after)
    else (delimited delimiter isRegex fuel rest).map fun (t, after) => (c :: t, after)

/-- Reads up to a delimiter. -/
def upTo (delimiter : Char) (isRegex : Bool) (message : String) : Reading Text := do
  let s ← get
  match delimited delimiter isRegex (s.rest.length + 1) s.rest with
  | none => do
    skip s.rest.length
    fail message
  | some (t, after) => do
    skip (s.rest.length - after.length)
    return t

/-- A regular expression. -/
def linePattern (t : Text) (ignoresCase hasLines : Bool) : Reading LinePattern := do
  if t.isEmpty then return ⟨none, ignoresCase, hasLines⟩
  else
    match Regex.read (← get).dialect t with
    | .ok r => return ⟨some r, ignoresCase, hasLines⟩
    | .error message => fail message

/-- The regular expression of an address, from after its delimiter on. -/
def addressPattern (delimiter : Char) : Reading LinePattern := do
  let t ← upTo delimiter true "unterminated address regex"
  let flags ← takeWhile fun c => c == 'I' || c == 'M'
  linePattern t ('I' ∈ flags) ('M' ∈ flags)

/-- The delimiter of the regular expression that starts here, if one does; it is used up. -/
def patternStart? : Reading (Option Char) := do
  match (← get).rest with
  | '/' :: _ => do
    skip 1
    return some '/'
  | '\\' :: c :: _ => do
    skip 2
    return some c
  | _ => return none

/-- The first address of a command, if there is one, and whether it is line zero. -/
def place? : Reading (Option Place) := do
  match ← patternStart? with
  | some delimiter => return some (.found (← addressPattern delimiter))
  | none =>
    match ← peek with
    | some '$' => do
      skip 1
      return some .last
    | some c =>
      if c.isDigit then
        let n ← number
        skipBlanks
        if (← peek) = some '~' then
          skip 1
          return some (.every (← number) n)
        else return some (.line n)
      else return none
    | none => return none

/-- The second address of a command. -/
def until? : Reading (Option Until) := do
  match ← patternStart? with
  | some delimiter => return some (.found (← addressPattern delimiter))
  | none =>
    match ← peek with
    | some '$' => do
      skip 1
      return some .last
    | some '+' => do
      skip 1
      return some (.after (← number))
    | some '~' => do
      skip 1
      return some (.multiple (← number))
    | some c => if c.isDigit then return some (.line (← number)) else return none
    | none => return none

/-- For which lines a command is meant, and whether two addresses say that. -/
def selection : Reading Selection := do
  let first ← place?
  if first.isSome then skipBlanks
  let stop ← if first.isSome && (← peek) = some ',' then do
      skip 1
      skipBlanks
      match ← until? with
      | some u => pure (some u)
      | none => do
        skip 1
        fail "unexpected `,'"
    else pure none
  skipBlanks
  let isZero := first = some (.line 0)
  let isOpen := isZero && stop matches some (.found _)
  let isNegated := (← peek) = some '!'
  if isNegated then
    skip 1
    skipBlanks
    if (← peek) = some '!' then
      skip 1
      fail "multiple `!'s"
  if isZero && !isOpen then
    skip 1
    fail "invalid usage of line address 0"
  return ⟨first, stop, isOpen, isNegated⟩

/-- Nothing may follow a command but a sign that ends it. -/
def finish : Reading Unit := do
  let _ ← takeWhile fun c => Raw.isSpace c && c != '\n'
  match ← peek with
  | none | some '\x7d' | some '#' => return
  | some '\n' | some ';' => skip 1
  | _ => do
    skip 1
    fail "extra characters after command"

/-- The name of a label. -/
def labelName : Reading Text := do
  let _ ← takeWhile fun c => Raw.isSpace c && c != '\n'
  takeWhile fun c => !Raw.isSpace c && c != ';' && c != '\x7d'

/-- The name of a file. -/
def fileName : Reading Text := do
  let _ ← takeWhile Raw.isBlank
  let t ← takeWhile (· != '\n')
  if t.isEmpty then fail "missing filename in r/R/w/W commands"
  skip 1
  return t

/-- The character that an escape with a number stands for, and how many characters it takes after
the backslash. -/
def numbered? (t : Text) : Option (Char × Nat) :=
  let code (base : Nat) (count : Nat) (t : Text) : Option (Char × Nat) :=
    let digits := (t.take count).takeWhile fun c => (Text.hexDigit? c).any (· < base)
    if digits.isEmpty then none
    else some (Char.ofNat ((Raw.digits base digits).1 % 256), digits.length + 1)
  match t with
  | 'x' :: rest => code 16 2 rest
  | 'o' :: rest => code 8 3 rest
  | 'd' :: rest => code 10 3 rest
  | _ => none

/-- The text of a command without its backslashes. A letter after a backslash can stand for another
character. -/
def plainText : Nat → Text → Text
  | _, [] => []
  | skip + 1, _ :: rest => plainText skip rest
  | 0, '\\' :: c :: rest =>
    match numbered? (c :: rest) with
    | some (d, n) => d :: plainText n (c :: rest)
    | none => (Regex.control? c).getD c :: plainText 1 (c :: rest)
  | 0, ['\\'] => []
  | 0, c :: rest => c :: plainText 0 rest

/-- The lines of a text that belong to a command: a line end after a backslash does not end it. -/
def textEnd : Text → Nat
  | [] => 0
  | '\\' :: _ :: rest => textEnd rest + 2
  | '\n' :: _ => 0
  | _ :: rest => textEnd rest + 1

/-- The text of a command, with a line end. -/
def commandText : Reading Text := do
  let _ ← takeWhile fun c => Raw.isSpace c && c != '\n'
  match (← get).rest with
  | [] => fail "expected \\ after `a', `c' or `i'"
  | '\\' :: rest => do
    skip 1
    let blanks := rest.takeWhile fun c => Raw.isSpace c && c != '\n'
    match rest.drop blanks.length with
    | '\n' :: _ => skip (blanks.length + 1)
    | _ => pure ()
  | _ => pure ()
  let s ← get
  let t := s.rest.take (textEnd s.rest)
  skip (t.length + 1)
  if s.rest.isEmpty then return []
  return plainText 0 t ++ ['\n']

/-! ### Substitutions -/

/-- The part of a replacement that a backslash makes with what follows it, and the number of
characters that follow it. -/
def escapedPart? : Text → Option (Part × Nat)
  | [] => none
  | c :: rest =>
    if c.isDigit then some (.group (c.toNat - '0'.toNat), 1)
    else
      match c with
      | 'U' => some (.letters .upper, 1)
      | 'L' => some (.letters .lower, 1)
      | 'u' => some (.letters .nextUpper, 1)
      | 'l' => some (.letters .nextLower, 1)
      | 'E' => some (.letters .asIs, 1)
      | c =>
        match numbered? (c :: rest) with
        | some (d, n) => some (.literal [d], n)
        | none => some (.literal [(Regex.control? c).getD c], 1)

/-- The parts of a replacement. The first number counts the characters that are still to be
skipped. -/
def template : Nat → Text → List Part
  | _, [] => []
  | skip + 1, _ :: rest => template skip rest
  | 0, c :: rest =>
    match if c = '\\' then escapedPart? rest else none with
    | some (p, n) => p :: template n rest
    | none => (if c = '&' then .group 0 else .literal [c]) :: template 0 rest

/-- The flags of a substitution as they are read. -/
structure Flags where
  isGlobal : Bool := false
  prints : Bool := false
  ignoresCase : Bool := false
  hasLines : Bool := false
  number : Option Nat := none
  file : Option Text := none

/-- The flags after a substitution. -/
def flags : Nat → Flags → Reading Flags
  | 0, f => return f
  | fuel + 1, f => do
    match ← peek with
    | none | some '\x7d' | some '#' => return f
    | some '\n' | some ';' => do
      skip 1
      return f
    | some 'w' => do
      skip 1
      return { f with file := some (← fileName) }
    | some c =>
      if c.isDigit then
        let n ← number
        if n = 0 then fail "number option to `s' command may not be zero"
        else if f.number.isSome then fail "multiple number options to `s' command"
        else flags fuel { f with number := some n }
      else
        skip 1
        match c with
        | 'g' =>
          if f.isGlobal then fail "multiple `g' options to `s' command"
          else flags fuel { f with isGlobal := true }
        | 'p' =>
          if f.prints then fail "multiple `p' options to `s' command"
          else flags fuel { f with prints := true }
        | 'i' | 'I' => flags fuel { f with ignoresCase := true }
        | 'm' | 'M' => flags fuel { f with hasLines := true }
        | c =>
          if Raw.isSpace c then flags fuel f else fail "unknown option to `s'"

/-- A substitution, from its delimiter on. -/
def substitution : Reading Substitution := do
  let unterminated := "unterminated `s' command"
  match ← next with
  | none => fail unterminated
  | some delimiter => do
    let t ← upTo delimiter true unterminated
    let replacement ← upTo delimiter false unterminated
    let f ← flags ((← get).rest.length + 1) {}
    let p ← linePattern t f.ignoresCase f.hasLines
    let parts := template 0 replacement
    let groups := (p.regex.map Prod.snd).getD 9
    match parts.find? fun
        | .group n => groups < n
        | _ => false with
    | some (.group n) =>
      throw (.inScript (← get).position
        ("invalid reference \\".toList ++ Raw.decimal n ++ " on `s' command's RHS".toList))
    | _ => return ⟨p, parts, f.number.getD 1, f.isGlobal, f.prints, f.file⟩

/-- The characters of one side of a transliteration. -/
def charsOf : Text → Text
  | '\\' :: c :: rest => (Regex.control? c).getD c :: charsOf rest
  | c :: rest => c :: charsOf rest
  | [] => []

/-- A transliteration, from its delimiter on. -/
def transliteration : Reading (List (Char × Char)) := do
  let unterminated := "unterminated `y' command"
  match ← next with
  | none => fail unterminated
  | some delimiter => do
    let source := charsOf (← upTo delimiter false unterminated)
    let target := charsOf (← upTo delimiter false unterminated)
    if source.length ≠ target.length then
      fail "strings for `y' command are different lengths"
    finish
    return source.zip target

/-! ### Commands -/

/-- Adds an instruction. -/
def add (s : Selection) (a : Action) : Reading Unit :=
  modify fun r => { r with
    script := { r.script with instructions := r.script.instructions.push ⟨s, a⟩ } }

/-- Ends the innermost block. -/
def closeBlock : Reading Unit := do
  let r ← get
  match r.blocks with
  | [] => fail "unexpected `\x7d'"
  | start :: others =>
    let is := r.script.instructions
    let is := is.modify start fun i => { i with action := .block is.size }
    set { r with script := { r.script with instructions := is }, blocks := others }

/-- A command that is nothing but its letter. -/
def simple? : Char → Option Action
  | 'd' => some .delete
  | 'D' => some .deleteFirst
  | 'g' => some .recallHold
  | 'G' => some .recallMore
  | 'h' => some .hold
  | 'H' => some .holdMore
  | 'x' => some .exchange
  | 'F' => some .showName
  | '=' => some .showNumber
  | 'n' => some .next
  | 'N' => some .nextMore
  | 'p' => some .print
  | 'P' => some .printFirst
  | 'z' => some .clear
  | _ => none

/-- A command with its letter and what belongs to it. -/
def action (s : Selection) (c : Char) : Reading Unit := do
  match c with
  | '\x7b' => do
    let r ← get
    set { r with blocks := r.script.instructions.size :: r.blocks }
    add s (.block 0)
  | '\x7d' => do
    if s.first.isSome then fail "\x7d doesn't want any addresses"
    closeBlock
    finish
  | ':' => do
    if s.first.isSome then fail ": doesn't want any addresses"
    let _ ← takeWhile Raw.isBlank
    let name ← takeWhile fun c => !Raw.isSpace c && c != ';'
    if name.isEmpty then fail "\":\" lacks a label"
    modify fun r => { r with script := { r.script with
      labels := (name, r.script.instructions.size) :: r.script.labels } }
    finish
  | 'a' => do add s (.append (← commandText))
  | 'i' => do add s (.insert (← commandText))
  | 'c' => do add s (.change (← commandText))
  | 'b' => do
    let name ← labelName
    finish
    add s (.jump name)
  | 't' => do
    let name ← labelName
    finish
    add s (.jumpIf true name)
  | 'T' => do
    let name ← labelName
    finish
    add s (.jumpIf false name)
  | 'q' | 'Q' => do
    if s.stop.isSome then fail "command only uses one address"
    let _ ← takeWhile Raw.isBlank
    let n ← number
    finish
    add s (.quit n (c = 'Q'))
  | 'l' => do
    let _ ← takeWhile Raw.isBlank
    let digits ← takeWhile Char.isDigit
    finish
    add s (.showVisibly (Raw.natural? digits))
  | 'r' => do add s (.appendFile (← fileName))
  | 'R' => do add s (.appendLine (← fileName))
  | 'w' => do add s (.write (← fileName))
  | 'W' => do add s (.writeFirst (← fileName))
  | 's' => do add s (.substitute (← substitution))
  | 'y' => do add s (.transliterate (← transliteration))
  | 'v' => do
    let _ ← labelName
    finish
  | c =>
    match simple? c with
    | some a => do
      finish
      add s a
    | none =>
      throw (.inScript (← get).position ("unknown command: `".toList ++ [c, '\'']))

/-- The commands of a script. -/
def commands : Nat → Reading Unit
  | 0 => return
  | fuel + 1 => do
    let _ ← takeWhile fun c => Raw.isSpace c || c == ';'
    match ← peek with
    | none => return
    | some '#' => do
      let _ ← takeWhile (· != '\n')
      commands fuel
    | some _ => do
      let s ← selection
      match ← next with
      | none => fail "missing command"
      | some c => do
        if c = '#' then fail "comments don't accept any addresses"
        action s c
        commands fuel

/-- The label of a jump that leads nowhere. -/
def missingLabel? (s : Script) : Option Text :=
  s.instructions.toList.findSome? fun i =>
    let check (name : Text) : Option Text :=
      if name.isEmpty || (s.labels.lookup name).isSome then none else some name
    match i.action with
    | .jump name | .jumpIf _ name => check name
    | _ => none

/-- The script that a text is. A first line that says so keeps lines from being printed. -/
def Script.read (d : Regex.Dialect) (t : Text) : Except Mistake Script := do
  let isQuiet := Text.startsWith "#n\n".toList t || t = "#n".toList
  let ((), r) ← (commands (t.length + 1)).run { rest := t, dialect := d }
  if !r.blocks.isEmpty then throw (.inScript 0 "unmatched `\x7b'".toList)
  else
    match missingLabel? r.script with
    | some name => throw (.label name)
    | none => return { r.script with isQuiet := isQuiet }

end Retint.Shell.Edit
