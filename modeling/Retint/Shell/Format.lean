import Retint.Shell.Number

/-!
# Output by a format

A format is text with places for arguments. A place says how its argument is written: as text, as a
number in some base or with some digits, in a field of some width.

## Main definitions

* `Format.escape?`, `unescape` — what a backslash stands for together with what follows it
* `Format.Spec` — how an argument is written
* `Format.Part`, `Format.parts` — a format taken apart
* `Spec.writeText`, `writeInteger`, `writeNatural`, `writeFloat` — writing arguments
-/

namespace Retint.Shell.Format

/-! ### Escapes -/

def isOctal (c : Char) : Bool := '0' ≤ c && c ≤ '7'

/-- The character that octal digits stand for. -/
def octal (digits : Text) : Char :=
  Char.ofNat (digits.foldl (fun n d => 8 * n + (d.toNat - 48)) 0 % 256)

/-- What an escape stands for, and how many characters follow its backslash. In a wide escape,
three digits can come after a zero. -/
def escape? (wide : Bool) : Text → Option (Char × Nat)
  | [] => none
  | c :: rest =>
    match c with
    | 'a' => some ('\x07', 1)
    | 'b' => some ('\x08', 1)
    | 't' => some ('\t', 1)
    | 'n' => some ('\n', 1)
    | 'v' => some ('\x0b', 1)
    | 'f' => some ('\x0c', 1)
    | 'r' => some ('\r', 1)
    | 'e' => some ('\x1b', 1)
    | '\\' => some ('\\', 1)
    | c =>
      if wide && c == '0' then
        let digits := (rest.take 3).takeWhile isOctal
        some (octal digits, digits.length + 1)
      else
        let digits := ((c :: rest).take 3).takeWhile isOctal
        if digits.isEmpty then none else some (octal digits, digits.length)

/-- The text with its escapes replaced, and whether it goes on after it. An escaped `c` ends the
output. The first number counts the characters of the current escape that are still to be
skipped. -/
def unescape : Nat → Text → Text × Bool
  | _, [] => ([], true)
  | skip + 1, _ :: rest => unescape skip rest
  | 0, c :: rest =>
    if c = '\\' ∧ rest.head? = some 'c' then ([], false)
    else
      match if c = '\\' then escape? true rest else none with
      | some (value, n) =>
        let (more, goesOn) := unescape n rest
        (value :: more, goesOn)
      | none =>
        let (more, goesOn) := unescape 0 rest
        (c :: more, goesOn)

/-! ### Formats -/

/-- A size that is written down or is the next argument. -/
inductive Size
  | given (n : Nat)
  | argument
deriving DecidableEq, Repr

/-- How an argument is written. -/
structure Spec where
  flags : Text := []
  width : Size := .given 0
  precision : Option Size := none
  conversion : Char
deriving DecidableEq, Repr

/-- A part of a format. -/
inductive Part
  | literal (t : Text)
  | place (s : Spec)
  /-- A place that says nothing that can be done. -/
  | bad (t : Text)
deriving DecidableEq, Repr

/-- A size at the start of a text, and the number of its characters. -/
def size (t : Text) : Size × Nat :=
  match t with
  | '*' :: _ => (.argument, 1)
  | t =>
    let digits := t.takeWhile Char.isDigit
    (.given (Text.ofDecimal digits), digits.length)

/-- The place after a percent sign, and the number of its characters; only some conversions are
allowed, with some letters before them that are passed over. -/
def place (conversions skipped t : Text) : Part × Nat :=
  let flags := t.takeWhile ("-+ 0#".toList.contains ·)
  let (width, n) := size (t.drop flags.length)
  let n := flags.length + n
  let (precision, n) := match t.drop n with
    | '.' :: rest => (some (size rest).1, n + 1 + (size rest).2)
    | _ => (none, n)
  let n := n + ((t.drop n).takeWhile (· ∈ skipped)).length
  match t.drop n with
  | c :: _ =>
    if c ∈ conversions then (.place ⟨flags, width, precision, c⟩, n + 1)
    else (.bad ('%' :: t.take (n + 1)), n + 1)
  | [] => (.bad ('%' :: t), n)

/-- The parts of a format. With `escapes`, a backslash has a meaning. The first number counts the
characters of the current part that are still to be skipped. -/
def parts (conversions skipped : Text) (escapes : Bool) : Nat → Text → List Part
  | _, [] => []
  | skip + 1, _ :: rest => parts conversions skipped escapes skip rest
  | 0, c :: rest =>
    match if c = '\\' ∧ escapes then escape? false rest else none with
    | some (value, n) => .literal [value] :: parts conversions skipped escapes n rest
    | none =>
      if c = '%' then
        if rest.head? = some '%' then .literal ['%'] :: parts conversions skipped escapes 1 rest
        else
          let (part, n) := place conversions skipped rest
          part :: parts conversions skipped escapes n rest
      else .literal [c] :: parts conversions skipped escapes 0 rest

/-! ### Writing -/

/-- A place whose sizes are known. -/
structure Field where
  flags : Text
  width : Nat
  precision : Option Nat
  conversion : Char
deriving DecidableEq, Repr

namespace Field

def has (f : Field) (flag : Char) : Bool := flag ∈ f.flags

/-- A text filled up with spaces to the width of the field. -/
def pad (f : Field) (t : Text) : Text :=
  if f.has '-' then Raw.padRight f.width t else Raw.padLeft f.width t

/-- A number with its sign, filled up to the width of the field; with zeros if that is asked for. -/
def padNumber (f : Field) (zeros : Bool) (sign digits : Text) : Text :=
  if zeros && f.has '0' && !f.has '-' then
    sign ++ List.replicate (f.width - sign.length - digits.length) '0' ++ digits
  else f.pad (sign ++ digits)

/-- The sign of a number. -/
def sign (f : Field) (isNegative : Bool) : Text :=
  if isNegative then ['-'] else if f.has '+' then ['+'] else if f.has ' ' then [' '] else []

/-- Digits filled up with zeros to the precision of the field. -/
def digits (f : Field) (t : Text) : Text :=
  if f.precision = some 0 ∧ t = ['0'] then []
  else List.replicate (f.precision.getD 1 - t.length) '0' ++ t

def writeText (f : Field) (t : Text) : Text :=
  f.pad (match f.precision with
    | some n => t.take n
    | none => t)

def writeInteger (f : Field) (n : Int) : Text :=
  f.padNumber f.precision.isNone (f.sign (n < 0)) (f.digits (Nat.toDigits 10 n.natAbs))

/-- The number in the base of the conversion. -/
def writeNatural (f : Field) (n : Nat) : Text :=
  let digits (base : Nat) : Text := f.digits (Nat.toDigits base n)
  let (lead, digits) : Text × Text := match f.conversion with
    | 'x' => (if f.has '#' && n != 0 then "0x".toList else [], digits 16)
    | 'X' => (if f.has '#' && n != 0 then "0X".toList else [], (digits 16).map Char.toUpper)
    | 'o' =>
      let digits := digits 8
      ([], if f.has '#' && digits.head? != some '0' then '0' :: digits else digits)
    | _ => ([], digits 10)
  f.padNumber f.precision.isNone lead digits

def writeFloat (f : Field) (x : Float) : Text :=
  let sign := f.sign (Number.isNegative x)
  if x.isFinite then
    let places := f.precision.getD 6
    let digits := match f.conversion.toLower with
      | 'e' => Number.scientific places x
      | 'g' => Number.general (f.has '#') places x
      | _ => Number.fixed places x
    let digits := if f.conversion.isUpper then digits.map Char.toUpper else digits
    f.padNumber true sign digits
  else f.pad (sign ++ (if x.isNaN then "nan" else "inf").toList)

end Field

end Retint.Shell.Format
