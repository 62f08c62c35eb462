import Retint.Shell.Awk.Syntax
import Retint.Shell.Format
import Retint.Shell.Number

/-!
# The words of a record program

A program is taken apart into words and signs. A slash begins a regular expression where an operand
can come; elsewhere it is a division.

## Main definitions

* `Awk.Token`, `Awk.Mistake` — words and signs, and why a program cannot be read
* `Awk.regexLength` — how far a regular expression goes
* `Awk.tokens` — the words and signs of a program, each with its line

## Main results

* `Awk.slash_of_regexLength` — a slash ends a regular expression
-/

namespace Retint.Shell.Awk

inductive Token
  | number (x : Float)
  | text (t : Text)
  | regex (source : Text)
  | name (n : Text)
  /-- A name right before a parenthesis. -/
  | called (n : Text)
  | builtin (n : Text)
  | keyword (n : Text)
  | sign (t : Text)
  | lineEnd

/-- Why a program cannot be read, and on which line that is seen. -/
structure Mistake where
  line : Option Nat
  message : Text
deriving DecidableEq, Repr

def keywords : List Text :=
  ["BEGIN", "END", "function", "if", "else", "while", "for", "do", "break", "continue", "next",
    "nextfile", "exit", "return", "delete", "in", "getline", "print", "printf"].map String.toList

/-- The built-in functions, each with the least and the greatest number of its arguments. -/
def builtins : List (Text × Nat × Nat) :=
  [("length", 0, 1), ("substr", 2, 3), ("index", 2, 2), ("split", 2, 3), ("sub", 2, 3),
    ("gsub", 2, 3), ("match", 2, 2), ("sprintf", 1, 1000), ("sin", 1, 1), ("cos", 1, 1),
    ("atan2", 2, 2), ("exp", 1, 1), ("log", 1, 1), ("sqrt", 1, 1), ("int", 1, 1), ("rand", 0, 0),
    ("srand", 0, 1), ("tolower", 1, 1), ("toupper", 1, 1), ("system", 1, 1), ("close", 1, 1),
    ("fflush", 0, 1)].map fun (name, bounds) => (name.toList, bounds)

/-- The built-in functions whose arguments are expected one by one. -/
def strict : List Text := ["split", "sub", "gsub", "match"].map String.toList

/-- The signs, a longer one before its beginning. -/
def signs : List Text :=
  ["&&", "||", "==", "!=", "<=", ">=", ">>", "++", "--", "+=", "-=", "*=", "/=", "%=", "^=", "!~",
    "\x7b", "\x7d", "(", ")", "[", "]", ";", ",", "+", "-", "*", "/", "%", "^", "!", ">", "<", "|",
    "?", ":", "~", "$", "="].map String.toList

namespace Token

/-- Whether an operand can come after a token. -/
def awaitsOperand : Option Token → Bool
  | some (number _) | some (text _) | some (regex _) | some (name _) | some (builtin _) => false
  | some (sign t) => !([")", "]", "$", "++", "--"].any (·.toList = t))
  | _ => true

/-- A token as it is shown in a message. -/
def shown : Token → Text
  | number x => Number.general false 6 x
  | regex t => '/' :: t ++ ['/']
  | text n | name n | called n | builtin n | keyword n | sign n => n
  | lineEnd => "end of line".toList

end Token

/-! ### Texts -/

/-- The characters up to a quote, an escaped one aside, and the number of characters before it. -/
def upToQuote : Text → Option (Text × Nat)
  | [] => none
  | '"' :: _ => some ([], 0)
  | '\\' :: '\n' :: rest => (upToQuote rest).map fun (t, n) => (t, n + 2)
  | '\\' :: c :: rest => (upToQuote rest).map fun (t, n) => ('\\' :: c :: t, n + 2)
  | '\n' :: _ => none
  | c :: rest => (upToQuote rest).map fun (t, n) => (c :: t, n + 1)

/-- The text that characters between quotes stand for. The first number counts the characters that
are still to be skipped. -/
def unquote : Nat → Text → Text
  | _, [] => []
  | skip + 1, _ :: rest => unquote skip rest
  | 0, c :: rest =>
    if c = '\\' then
      match rest with
      | '"' :: _ => '"' :: unquote 1 rest
      | _ =>
        match Format.escape? false rest with
        | some (d, n) => d :: unquote n rest
        | none => c :: unquote 0 rest
    else c :: unquote 0 rest

/-- How far a set of characters has been read. -/
inductive SetState
  | outside | first | inside | named
deriving DecidableEq, Repr

/-- The number of characters before the slash that ends a regular expression. A slash in a set does
not end it. -/
def regexLength : SetState → Text → Option Nat
  | _, [] => none
  | _, '\n' :: _ => none
  | s, '\\' :: _ :: rest =>
    (regexLength (if s = .first then .inside else s) rest).map (· + 2)
  | .outside, '/' :: _ => some 0
  | .outside, '[' :: '^' :: rest => (regexLength .first rest).map (· + 2)
  | .outside, '[' :: rest => (regexLength .first rest).map (· + 1)
  | .inside, ']' :: rest => (regexLength .outside rest).map (· + 1)
  | .named, ':' :: ']' :: rest => (regexLength .inside rest).map (· + 2)
  | .first, '[' :: ':' :: rest => (regexLength .named rest).map (· + 2)
  | .inside, '[' :: ':' :: rest => (regexLength .named rest).map (· + 2)
  | .first, _ :: rest => (regexLength .inside rest).map (· + 1)
  | s, _ :: rest => (regexLength s rest).map (· + 1)

theorem slash_of_regexLength (t : Text) :
    ∀ (s : SetState) (n : Nat), regexLength s t = some n → t[n]? = some '/' := by
  intro s n h
  fun_induction regexLength s t generalizing n <;> try rw [Option.map_eq_some_iff] at h
  all_goals first
    | contradiction
    | (obtain ⟨k, hk, rfl⟩ := h
       simp_all)

/-- The source of a regular expression without the backslashes before slashes. -/
def unslash : Text → Text
  | '\\' :: '/' :: rest => '/' :: unslash rest
  | '\\' :: c :: rest => '\\' :: c :: unslash rest
  | c :: rest => c :: unslash rest
  | [] => []

/-! ### Words -/

/-- The word at the start of a text. -/
def wordToken (w : Text) (after : Option Char) : Token :=
  if keywords.contains w then .keyword w
  else if w = "func".toList then .keyword "function".toList
  else if (builtins.lookup w).isSome then .builtin w
  else if after = some '(' then .called w
  else .name w

/-- What is said about something that does not end. -/
def runaway (kind : String) (t : Text) : Text :=
  "runaway ".toList ++ kind.toList ++ (t.takeWhile (· != '\n')).take 10 ++ " ...".toList

/-- The next token of a text that does not begin with white space, and the number of its
characters. -/
def token (line : Nat) (last : Option Token) (t : Text) : Except Mistake (Token × Nat) :=
  match t with
  | [] => .ok (.lineEnd, 0)
  | c :: rest =>
    if Raw.startsName c then
      let w := t.takeWhile Raw.continuesName
      .ok (wordToken w (t.drop w.length).head?, w.length)
    else if c.isDigit || (c = '.' && rest.head?.any Char.isDigit) then
      match Number.read? t with
      | some (x, after) => .ok (.number x, t.length - after.length)
      | none => .ok (.number 0, 1)
    else if c = '"' then
      match upToQuote rest with
      | some (inside, n) => .ok (.text (unquote 0 inside), n + 2)
      | none => .error ⟨some line, runaway "string constant \"" rest⟩
    else if c = '/' && Token.awaitsOperand last then
      match regexLength .outside rest with
      | some n => .ok (.regex (unslash (rest.take n)), n + 2)
      | none => .error ⟨some line, runaway "regular expression /" rest⟩
    else
      match signs.find? fun s => Text.startsWith s t with
      | some s => .ok (.sign s, s.length)
      | none =>
        .error ⟨none, Raw.decimal line ++ ": unexpected character '".toList ++ [c, '\'']⟩

/-- The tokens of a text, each with its line. The first number counts the characters of the last
token that are still to be skipped. -/
def tokensFrom : Nat → Nat → Option Token → Text → Except Mistake (List (Token × Nat))
  | _, line, _, [] => .ok [(.lineEnd, line + 1)]
  | skip + 1, line, last, c :: rest =>
    tokensFrom skip (if c = '\n' then line + 1 else line) last rest
  | 0, line, last, c :: rest =>
    if c = '\n' then
      (tokensFrom 0 (line + 1) none rest).map ((.lineEnd, line) :: ·)
    else if Raw.isSpace c then tokensFrom 0 line last rest
    else if c = '\\' ∧ rest.head? = some '\n' then tokensFrom 1 line last rest
    else if c = '#' then
      tokensFrom (rest.takeWhile (· != '\n')).length line last rest
    else
      match token line last (c :: rest) with
      | .error mistake => .error mistake
      | .ok (t, n) => (tokensFrom (n - 1) line (some t) rest).map ((t, line) :: ·)

/-- The tokens of a program. -/
def tokens (t : Text) : Except Mistake (List (Token × Nat)) := tokensFrom 0 1 none t

end Retint.Shell.Awk
