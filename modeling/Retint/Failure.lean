import Retint.Path
import Retint.Unicode.Printing

/-!
# Failures

What can go wrong, as causes. The wording of a message is in one place, beside the cause.

## Main definitions

* `FileFault` — why an access to a file or directory failed
* `Failure` — why a stage of the theme generation failed
* `Failure.message` — what the user is told
-/

namespace Retint

/-- Why an access to a file or directory failed. -/
inductive FileFault
  | notFound
  /-- The file is to be started, but is no program. -/
  | notProgram
  | denied | exists | notDirectory | isDirectory | nameTooLong | tooManyLinks
  /-- The path holds a NUL character. -/
  | nulInPath
  /-- The file does not hold text. -/
  | notText
deriving DecidableEq, Repr

namespace FileFault

/-- The reason in words, and its number if the operating system gives one. -/
def reason : FileFault → String × Option Nat
  | .notFound => ("No such file or directory", some 2)
  | .notProgram => ("Exec format error", some 8)
  | .denied => ("Permission denied", some 13)
  | .exists => ("File exists", some 17)
  | .notDirectory => ("Not a directory", some 20)
  | .isDirectory => ("Is a directory", some 21)
  | .nameTooLong => ("File name too long", some 36)
  | .tooManyLinks => ("Too many levels of symbolic links", some 40)
  | .nulInPath => ("file name contained an unexpected NUL byte", none)
  | .notText => ("stream did not contain valid UTF-8", none)

/-- What the user is told: the reason, and its number in parentheses. -/
def message (f : FileFault) : Text :=
  match f.reason with
  | (words, some n) => words.toList ++ " (os error ".toList ++ Nat.toDigits 10 n ++ [')']
  | (words, none) => words.toList

end FileFault

/-- Why a stage failed. -/
inductive Failure
  /-- A file access failed; `doing` says what for. -/
  | file (doing : Text) (fault : FileFault)
  /-- The compiler rejected its input or could not be run. -/
  | compile (report : Text)
  /-- The file could not be flattened. -/
  | bundle (file : Path) (report : Text)
  /-- An alias chain came back to a name it had met; the chain ends with that name. -/
  | cyclicAlias (chain : List Text)
  /-- An alias led to a name that is not declared. -/
  | undeclared (name : Text)
  /-- The configuration is missing something or contradicts itself. -/
  | config (report : Text)
  /-- A color pattern of the user cannot be read. -/
  | pattern (source : Text)
deriving DecidableEq, Repr

/-! ### Quoting -/

/-- The hexadecimal digits of a number, in lower case. -/
def hexDigits (n : Nat) : Text := Nat.toDigits 16 n

/-- One character of quoted text. -/
def quotedChar (c : Char) : Text :=
  match c with
  | '"' => ['\\', '"']
  | '\\' => ['\\', '\\']
  | '\n' => ['\\', 'n']
  | '\t' => ['\\', 't']
  | '\r' => ['\\', 'r']
  | c =>
    if c.toNat = 0 then ['\\', '0']
    else if Unicode.isPrintable c then [c]
    else "\\u\x7b".toList ++ hexDigits c.toNat ++ ['\x7d']

/-- Text in quotes. What does not show up as itself, or would join the character before it, is
written as an escape. -/
def quoted (t : Text) : Text := '"' :: t.flatMap quotedChar ++ ['"']

/-- A list of texts in quotes, in brackets. -/
def quotedList (ts : List Text) : Text :=
  ['['] ++ Text.joinWith ", ".toList (ts.map quoted) ++ [']']

/-! ### Messages -/

/-- What the user is told about a failure. -/
def Failure.message : Failure → Text
  | .file doing .. => "IO error: ".toList ++ doing
  | .compile report => "LESS compilation failed: ".toList ++ report
  | .bundle path report =>
    "Failed to bundle ".toList ++ quoted path.text ++ ": ".toList ++ report
  | .cyclicAlias chain =>
    "Cyclic variable alias: ".toList ++ Text.joinWith " -> ".toList chain
  | .undeclared name => "Variable '".toList ++ name ++ "' is not declared".toList
  | .config report => "Invalid configuration: ".toList ++ report
  | .pattern source => "Invalid color pattern '".toList ++ source ++ "'".toList

end Retint
