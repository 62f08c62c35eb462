import Retint.Shell.Raw
import Retint.Shell.Syntax

/-!
# The text of a script

The place that reading a script has come to, and what words and operators there are.

## Main definitions

* `Token` — words, operators, line ends and redirections
* `Shell.Source`, `Shell.Reading` — a place in a script, and reading from there
* `Shell.Mode` — what surrounds a part of a word
* `Shell.cutText` — takes the lines of a text in place of a file out of a script
-/

namespace Retint.Shell

/-- A word or an operator of a script. -/
inductive Token
  | word (w : Word)
  | operator (t : Text)
  | lineEnd
  | finish
  /-- A redirection that names its file or its stream in the next word. -/
  | redirect (stream : Nat) (kind : Text)

/-- The words that have a meaning of their own where a command can start. -/
def reserved : List Text :=
  ["!", "\x7b", "\x7d", "case", "do", "done", "elif", "else", "esac", "fi", "for", "if", "in",
    "then", "until", "while"].map String.toList

namespace Token

/-- The operator or reserved word that a token is. -/
def sign? : Token → Option Text
  | operator t => some t
  | word w => (plain? w).filter reserved.contains
  | _ => none

/-- What a token is called in a message. -/
def description (t : Token) : Text :=
  match t.sign? with
  | some s => '"' :: s ++ ['"']
  | none =>
    match t with
    | lineEnd => "newline".toList
    | finish => "end of file".toList
    | redirect .. => "redirection".toList
    | _ => "word".toList

/-- Whether a list of commands ends before a token. -/
def endsList (t : Token) : Bool :=
  match t with
  | finish => true
  | t => t.sign?.any fun s =>
    [")", ";;", "do", "done", "elif", "else", "esac", "fi", "then", "\x7d"].any (·.toList = s)

end Token

/-! ### Places -/

/-- A place in a script. -/
structure Source where
  rest : Text
  line : Nat := 1
  /-- The number of lines that have been taken out after the current one. -/
  ahead : Nat := 0
  /-- The next token, if it has been looked at. -/
  next : Option Token := none

/-- Reading from a place on. -/
abbrev Reading := StateT Source (Except Mistake)

namespace Reading

/-- Gives up at the current line. -/
def fail {α : Type} (message : Text) : Reading α := do
  throw ⟨(← get).line, "Syntax error: ".toList ++ message⟩

/-- The place after a character. -/
def pass (s : Source) (c : Char) : Source :=
  if c = '\n' then { s with rest := s.rest.tail, line := s.line + 1 + s.ahead, ahead := 0 }
  else { s with rest := s.rest.tail }

/-- Skips so many characters. -/
def skip (n : Nat) : Reading Unit := modify fun s => (s.rest.take n).foldl pass s

/-- The text from here on. A line end after a backslash is no part of it. -/
def text : Reading Text := do
  match (← get).rest with
  | '\\' :: '\n' :: _ => do
    skip 2
    match (← get).rest with
    | '\\' :: '\n' :: _ => skip 2
    | _ => pure ()
    return (← get).rest
  | t => return t

/-- Takes the characters that have a property. -/
def takeWhile (p : Char → Bool) : Reading Text := do
  let t := (← get).rest.takeWhile p
  skip t.length
  return t

/-- Reads another text on its own, from a line on. -/
def within {α : Type} (t : Text) (line : Nat) (r : Reading α) : Reading α := do
  let s ← get
  set { rest := t, line := line : Source }
  let a ← r
  set s
  return a

end Reading

/-! ### Parts of words -/

/-- What surrounds a part of a word, which decides how it is read and where it ends. -/
inductive Mode
  | plain
  | quotes
  /-- A text in place of a file. -/
  | text
  /-- A word in the braces of a parameter. -/
  | braces (quoted : Bool)
  /-- An expression in two pairs of parentheses, of which so many are open inside. -/
  | arithmetic (depth : Nat)
deriving DecidableEq, Repr

namespace Mode

def quoted : Mode → Bool
  | plain | braces false => false
  | _ => true

/-- Whether a character outside of quotes ends a word. -/
def endsWord (c : Char) : Bool := Raw.isBlank c || "\n;&|<>()".toList.contains c

/-- Whether the part ends before a character. -/
def endsBefore (m : Mode) (c : Char) : Bool :=
  match m with
  | plain => endsWord c
  | quotes => c == '"'
  | text => false
  | braces _ => c == '\x7d'
  | arithmetic depth => depth == 0 && c == ')'

/-- Whether a character is nothing but itself. -/
def isOrdinary (m : Mode) (c : Char) : Bool :=
  !m.endsBefore c && !"\\$\x60".toList.contains c &&
    match m with
    | plain | braces false => c != '"' && c != '\''
    | quotes | braces true => c != '"'
    | text => true
    | arithmetic _ => !"\"()".toList.contains c

/-- Whether a backslash takes the meaning of a character away; elsewhere it is itself. -/
def canEscape (m : Mode) (c : Char) : Bool :=
  match m with
  | plain | braces false => true
  | quotes | arithmetic _ => "$\x60\"\\".toList.contains c
  | text => "$\x60\\".toList.contains c
  | braces true => "$\x60\"\\\x7d".toList.contains c

/-- What is said if the script ends before the part does; nothing if it may end there. -/
def unclosed? : Mode → Option Text
  | plain | text => none
  | quotes => some "Unterminated quoted string".toList
  | braces _ => some "Missing '\x7d'".toList
  | arithmetic _ => some "Missing '))'".toList

end Mode

/-- The parameters whose name is a single character. -/
def isShortName (c : Char) : Bool := c.isDigit || "@*#?$!-".toList.contains c

/-! ### Texts in place of files -/

/-- The lines up to one that is the delimiter, what follows that line, and how many lines that
are. -/
def textLines (delimiter : Text) (withoutTabs : Bool) : List Text → List Text × List Text × Nat
  | [] => ([], [], 0)
  | line :: rest =>
    let line := if withoutTabs then line.dropWhile (· == '\t') else line
    if Raw.chomp line = delimiter then ([], rest, 1)
    else
      let (inside, after, n) := textLines delimiter withoutTabs rest
      (line :: inside, after, n + 1)

/-- Takes the lines up to the delimiter out of a text, from the line after the current one on; also
how many lines that are. -/
def cutText (delimiter : Text) (withoutTabs : Bool) (t : Text) : Text × Text × Nat :=
  match Raw.lines t with
  | [] => ([], [], 0)
  | line :: rest =>
    let (inside, after, n) := textLines delimiter withoutTabs rest
    (inside.flatten, line ++ after.flatten, n)

/-! ### Operators -/

/-- The operators, a longer one before its beginning. -/
def operators : List Text :=
  ["&&", "||", ";;", ";", "&", "|", "(", ")"].map String.toList

/-- The redirections, a longer one before its beginning. -/
def redirections : List Text :=
  [">>", ">|", ">&", "<<-", "<<", "<&", "<>", ">", "<"].map String.toList

/-- The first of the texts that a text starts with. -/
def lead? (leads : List Text) (t : Text) : Option Text := leads.find? (Text.startsWith · t)

/-- A redirection, which may begin with the digit of its stream: the stream, its kind, and the
number of characters. -/
def redirection? (t : Text) : Option (Nat × Text × Nat) :=
  match t with
  | c :: rest =>
    if c.isDigit then
      (lead? redirections rest).map fun kind => (c.toNat - '0'.toNat, kind, kind.length + 1)
    else
      (lead? redirections t).map fun kind =>
        (if kind.head? = some '<' then 0 else 1, kind, kind.length)
  | [] => none

end Retint.Shell
