import Retint.Text

/-!
# Shell scripts

The commands of a shell: what a script is after it has been read.

## Main definitions

* `Shell.Piece`, `Shell.Word` — what becomes the name or an argument of a command
* `Shell.Use` — what is asked of a parameter
* `Shell.Redirection` — where a stream of a command leads
* `Shell.Command` — commands
* `Shell.Script` — a script, which may come to an end in a mistake

## Implementation notes

A sequence of commands is one command. The line that a command keeps is the one that its errors are
reported for.
-/

namespace Retint.Shell

/-- How a file is opened. -/
inductive Access
  | read | write | append | both
deriving DecidableEq, Repr

mutual

/-- A piece of a word. What a quoted piece stands for is kept in one field, and its characters mean
themselves in a pattern. -/
inductive Piece
  | literal (quoted : Bool) (t : Text)
  | parameter (quoted : Bool) (name : Text) (use : Use)
  /-- What a command writes. -/
  | output (quoted : Bool) (body : Command)
  | arithmetic (quoted : Bool) (expression : List Piece)

/-- What is asked of a parameter. Where a word stands in for a value, it may do so only if the
parameter is not set, or also if its value is empty. -/
inductive Use
  | value
  | length
  | default (alsoEmpty : Bool) (word : List Piece)
  | assign (alsoEmpty : Bool) (word : List Piece)
  | demand (alsoEmpty : Bool) (message : List Piece)
  /-- The word, if the parameter has a value. -/
  | alternative (alsoEmpty : Bool) (word : List Piece)
  /-- The value without what a pattern matches at one of its ends. -/
  | trim (atEnd longest : Bool) (pattern : List Piece)
  /-- Nothing that can be asked. -/
  | invalid

/-- Where a stream leads. -/
inductive Redirection
  | file (stream : Nat) (access : Access) (name : List Piece)
  /-- A stream leads where another one does, or to nowhere. -/
  | copy (stream : Nat) (source : List Piece)
  /-- The input is a text. -/
  | text (stream : Nat) (content : List Piece)

inductive Command
  | skip
  /-- Assignments, and then a name and arguments, if there are any. -/
  | simple (line : Nat) (assignments : List (Text × List Piece)) (words : List (List Piece))
      (redirections : List Redirection)
  | redirected (line : Nat) (body : Command) (redirections : List Redirection)
  | sequence (first second : Command)
  /-- The second command is run if the first one succeeds. -/
  | both (first second : Command)
  /-- The second command is run if the first one fails. -/
  | either (first second : Command)
  | negation (body : Command)
  | background (body : Command)
  /-- Each command reads what the one before it writes. -/
  | pipeline (commands : List Command)
  | subshell (line : Nat) (body : Command) (redirections : List Redirection)
  | conditional (test yes no : Command)
  /-- The body is run again and again while the test fails, or while it succeeds. -/
  | loop (untilSuccess : Bool) (test body : Command)
  | each (line : Nat) (name : Text) (words : List (List Piece)) (body : Command)
  | choice (line : Nat) (subject : List Piece) (branches : List (List (List Piece) × Command))
  | function (line : Nat) (name : Text) (body : Command)

end

abbrev Word := List Piece

/-- A mistake in a script, and the line on which it shows. -/
structure Mistake where
  line : Nat
  message : Text
deriving DecidableEq, Repr

/-- A script: commands that are run one after the other, and the mistake after them if there is
one. -/
structure Script where
  commands : List Command
  mistake : Option Mistake

/-- The text of a word that is written without quotes and parameters. -/
def plain? : Word → Option Text
  | [] => some []
  | .literal false t :: rest => (plain? rest).map (t ++ ·)
  | _ => none

/-- The characters that a word is written with, quotes aside. -/
def written (w : Word) : Text :=
  w.flatMap fun
    | .literal _ t => t
    | _ => []

/-- Whether a part of a word is quoted. -/
def hasQuotes (w : Word) : Bool :=
  w.any fun
    | .literal quoted _ | .parameter quoted .. | .output quoted _ | .arithmetic quoted _ => quoted

end Retint.Shell
