import Retint.Shell.Arithmetic
import Retint.Shell.Format
import Retint.Shell.Tool.Options

/-!
# Printing

The commands of a shell that only print: their arguments as they are, or arguments by a format.

## Main definitions

* `Print.echo` — the output of arguments as they are
* `Print.Printing`, `Print.output` — what a format makes of arguments
* `Print.printf` — printing by a format as a command

## Main results

* `Print.echo_of_plain` — arguments without backslashes are printed as they are
-/

namespace Retint.Shell.Print

/-! ### Arguments as they are -/

/-- The arguments with spaces between them and a line end after them. An option `-n` that comes
first leaves the line end out, and so does an escape that ends the output. -/
def echo (arguments : List Text) : Text :=
  let (isEnded, arguments) := match arguments with
    | ['-', 'n'] :: rest => (false, rest)
    | arguments => (true, arguments)
  let (t, goesOn) := Format.unescape 0 (Text.joinWith [' '] arguments)
  if isEnded && goesOn then t ++ ['\n'] else t

theorem unescape_of_plain {t : Text} (h : '\\' ∉ t) : Format.unescape 0 t = (t, true) := by
  induction t with
  | nil => rfl
  | cons c t ih =>
    have hc : c ≠ '\\' := fun hc => h (by simp [hc])
    have ih := ih fun ht => h (by simp [ht])
    simp [Format.unescape, hc, ih]

theorem echo_of_plain {t : Text} (h : '\\' ∉ t) (hn : t ≠ ['-', 'n']) :
    echo [t] = t ++ ['\n'] := by
  unfold echo
  split
  rename_i h₁
  split at h₁
  · simp_all
  · cases h₁
    simp [Text.joinWith, unescape_of_plain h]

/-! ### Printing by a format -/

/-- The conversions that a format can have. -/
def conversions : Text := "bcsdiouxXaAeEfFgG".toList

/-- What has been printed so far. -/
structure Printing where
  arguments : List Text
  pieces : List Text := []
  /-- What is to be told of the arguments, the latest first. -/
  warnings : List Text := []
  /-- Whether an escape has ended the output. -/
  isOver : Bool := false
  /-- The mistake in the format. -/
  mistake : Option Text := none

abbrev Step := StateM Printing

/-- The next argument, if there is one. -/
def next? : Step (Option Text) := do
  let s ← get
  match s.arguments with
  | [] => return none
  | a :: rest => do
    set { s with arguments := rest }
    return some a

def emit (t : Text) : Step Unit := modify fun s => { s with pieces := t :: s.pieces }

def warn (t : Text) : Step Unit := modify fun s => { s with warnings := t :: s.warnings }

/-- The whole number at the start of a text, and what follows it. -/
def integerAt? (t : Text) : Option (Int × Text) :=
  let t := t.dropWhile Raw.isSpace
  let (sign, t) : Int × Text := match t with
    | '-' :: rest => (-1, rest)
    | '+' :: rest => (1, rest)
    | t => (1, t)
  let base : Nat × Text := match t with
    | '0' :: 'x' :: rest | '0' :: 'X' :: rest =>
      if (rest.head?.bind Text.hexDigit?).isSome then (16, rest) else (8, t)
    | '0' :: _ => (8, t)
    | t => (10, t)
  let (n, rest) := Raw.digits base.1 base.2
  if rest.length = base.2.length then none else some (sign * n, rest)

/-- An argument as a number: a quote stands for the code of the character after it. -/
def number (low high : Int) (argument : Text) : Step Int := do
  match argument with
  | '"' :: rest | '\'' :: rest => return ((rest.head?.map Char.toNat).getD 0 : Nat)
  | [] => return 0
  | argument =>
    match integerAt? argument with
    | none => do
      warn (argument ++ ": expected numeric value".toList)
      return 0
    | some (n, rest) => do
      if !rest.isEmpty then warn (argument ++ ": not completely converted".toList)
      else if n < low ∨ high < n then
        warn (argument ++ ": Numerical result out of range".toList)
      return max low (min high n)

/-- An argument as a floating-point number. -/
def float (argument : Text) : Step Float := do
  match argument with
  | '"' :: rest | '\'' :: rest => return Float.ofNat ((rest.head?.map Char.toNat).getD 0)
  | [] => return 0
  | argument =>
    match Number.read? argument with
    | none => do
      warn (argument ++ ": expected numeric value".toList)
      return 0
    | some (x, rest) => do
      if !rest.isEmpty then warn (argument ++ ": not completely converted".toList)
      return x

/-- A size that may be an argument, with whether it is negative. -/
def sized : Format.Size → Step Int
  | .given n => return n
  | .argument => do
    let a ← next?
    number (-2147483648) 2147483647 (a.getD [])

/-- A place whose sizes may be arguments. -/
def fieldOf (s : Format.Spec) : Step Format.Field := do
  let width ← sized s.width
  let precision ← s.precision.mapM sized
  return {
    flags := if width < 0 then '-' :: s.flags else s.flags
    width := width.natAbs
    precision := precision.bind fun n => if n < 0 then none else some n.toNat
    conversion := s.conversion }

/-- Prints an argument in its place. -/
def printPlace (s : Format.Spec) : Step Unit := do
  let f ← fieldOf s
  let argument := (← next?).getD []
  if f.conversion = 's' then emit (f.writeText argument)
  else if f.conversion = 'b' then
    let (t, goesOn) := Format.unescape 0 argument
    emit (f.writeText t)
    if !goesOn then modify fun s => { s with isOver := true }
  else if f.conversion = 'c' then emit (f.pad [argument.headD (Char.ofNat 0)])
  else if f.conversion = 'd' ∨ f.conversion = 'i' then
    let n ← number (-9223372036854775808) 9223372036854775807 argument
    emit (f.writeInteger n)
  else if "ouxX".toList.contains f.conversion then
    let n ← number (-18446744073709551615) 18446744073709551615 argument
    emit (f.writeNatural (Arithmetic.bits n))
  else emit (f.writeFloat (← float argument))

/-- What is said of a place that says nothing that can be done. -/
def badPlace (t : Text) : Text :=
  match t.reverse with
  | c :: _ =>
    if t.length ≠ 1 ∧ !("-+ 0#.*".toList.contains c || c.isDigit) then
      t ++ ": invalid directive".toList
    else "missing format character".toList
  | [] => "missing format character".toList

/-- Prints the parts of a format. -/
def printParts : List Format.Part → Step Unit
  | [] => return
  | p :: rest => do
    match p with
    | .literal t => emit t
    | .place s => printPlace s
    | .bad t => modify fun s => { s with mistake := some (badPlace t) }
    let s ← get
    if !s.isOver && s.mistake.isNone then printParts rest

/-- Prints by a format, which is used again while there are arguments left. The first argument is
at least the number of arguments. -/
def printAll (parts : List Format.Part) : Nat → Step Unit
  | 0 => printParts parts
  | fuel + 1 => do
    let before := (← get).arguments.length
    printParts parts
    let s ← get
    if !s.isOver && s.mistake.isNone && !s.arguments.isEmpty && s.arguments.length < before then
      printAll parts fuel

/-- What a format makes of arguments. -/
def output (format : Text) (arguments : List Text) : Printing :=
  (printAll (Format.parts conversions [] true 0 format) arguments.length
    |>.run { arguments := arguments }).2

variable {m : Type → Type} [Monad m]

/-- Prints by a format. Errors are told by `report`. -/
def printf (report : Text → Run m Unit) (arguments : List Text) : Run m Nat := do
  match arguments with
  | [] => do
    report "usage: printf format [arg ...]".toList
    return 2
  | format :: rest => do
    let s := output format rest
    s.warnings.reverse.forM report
    s.mistake.forM report
    Run.put s.pieces.reverse.flatten
    return if s.mistake.isSome then 2 else if s.warnings.isEmpty then 0 else 1

end Retint.Shell.Print
