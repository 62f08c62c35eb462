import Retint.Text.Utf8

/-!
# Bytes as characters

A shell and its tools work on bytes. Here a byte is the character with its number, so that a script
is a text like any other and the bytes that mean something can be written as they look. Only what
comes from outside and goes there is converted.

## Main definitions

* `Raw.ofBytes`, `Raw.bytes` — bytes as characters and back
* `Raw.ofText`, `Raw.text` — a text as its bytes, and the text that bytes make
* `Raw.lines` — the lines of a text, each with the line feed that ends it
* `Raw.decimal`, `Raw.integer?` — whole numbers

## Main results

* `Raw.bytes_ofBytes` — nothing is lost on the way there and back
* `Raw.flatten_lines` — the lines of a text put together are the text
-/

namespace Retint.Shell.Raw

/-! ### Conversion -/

/-- The characters that stand for bytes. -/
def ofBytes (b : List UInt8) : Text := b.map fun b => Char.ofNat b.toNat

/-- The bytes that characters stand for. -/
def bytes (t : Text) : List UInt8 := t.map fun c => c.toNat.toUInt8

theorem bytes_ofBytes (b : List UInt8) : bytes (ofBytes b) = b := by
  have h (b : UInt8) : (Char.ofNat b.toNat).toNat.toUInt8 = b := by
    have hb : b.toNat.isValidChar := .inl (Nat.lt_trans b.toNat_lt (by decide))
    have hc : (Char.ofNat b.toNat).toNat = b.toNat := by
      rw [Char.ofNat, dif_pos hb]
      rfl
    simp [hc]
  induction b with
  | nil => rfl
  | cons b bs ih => simpa [bytes, ofBytes, h] using ih

/-- The bytes of a text. -/
def ofText (t : Text) : Text := ofBytes (Text.utf8 t)

/-- The text that bytes make. -/
def text (t : Text) : Text := Text.ofUtf8Lossy (bytes t)

/-! ### Characters -/

def isBlank (c : Char) : Bool := c == ' ' || c == '\t'

/-- White space as the standard library of C has it. -/
def isSpace (c : Char) : Bool := c == ' ' || ('\t' ≤ c && c ≤ '\r')

def isPunctuation (c : Char) : Bool := '!' ≤ c && c ≤ '~' && !c.isAlphanum

def isControl (c : Char) : Bool := c < ' ' || c == '\x7f'

def startsName (c : Char) : Bool := c.isAlpha || c == '_'

def continuesName (c : Char) : Bool := c.isAlphanum || c == '_'

/-- Whether a text is a name: letters, digits and underscores, with no digit first. -/
def isName (t : Text) : Bool := t.head?.any startsName && t.all continuesName

/-- The named classes of characters. -/
def classes : List (Text × (Char → Bool)) :=
  [("alpha", Char.isAlpha), ("digit", Char.isDigit), ("alnum", Char.isAlphanum),
    ("upper", Char.isUpper), ("lower", Char.isLower), ("space", isSpace), ("blank", isBlank),
    ("punct", isPunctuation), ("cntrl", isControl), ("print", fun c => ' ' ≤ c && c ≤ '~'),
    ("graph", fun c => '!' ≤ c && c ≤ '~'), ("xdigit", fun c => (Text.hexDigit? c).isSome)].map
      fun (name, p) => (name.toList, p)

/-- The class with a name. -/
def class? (name : Text) : Option (Char → Bool) := classes.lookup name

/-- The characters that stand for a byte. -/
def all : Text := (List.range 256).map Char.ofNat

/-! ### Lines -/

/-- The lines of a text, each with the line feed that ends it. The last one need not have one. -/
def lines : Text → List Text
  | [] => []
  | '\n' :: rest => ['\n'] :: lines rest
  | c :: rest =>
    match lines rest with
    | [] => [[c]]
    | line :: more => (c :: line) :: more

theorem flatten_lines (t : Text) : (lines t).flatten = t := by
  induction t with
  | nil => rfl
  | cons c t ih =>
    unfold lines
    split
    · contradiction
    · rename_i h
      cases h
      simp [ih]
    · rename_i h
      cases h
      split <;> simp_all

/-- A line without the line feed that ends it. -/
def chomp (line : Text) : Text := if line.getLast? = some '\n' then line.dropLast else line

/-- The lines of a text without the line feeds that end them. -/
def bareLines (t : Text) : List Text := (lines t).map chomp

/-- The text without its last characters that are `c`. -/
def withoutTrailing (c : Char) (t : Text) : Text := (t.reverse.dropWhile (· == c)).reverse

/-! ### Whole numbers -/

/-- A whole number in decimal. -/
def decimal (n : Int) : Text :=
  if n < 0 then '-' :: Nat.toDigits 10 n.natAbs else Nat.toDigits 10 n.natAbs

/-- The number that a text of digits makes. -/
def natural? (t : Text) : Option Nat :=
  if t.isEmpty || !t.all Char.isDigit then none else some (Text.ofDecimal t)

/-- The number that a text writes, with white space around it and a sign before it allowed. -/
def integer? (t : Text) : Option Int :=
  let t := t.dropWhile isSpace
  let (isNegative, t) := match t with
    | '-' :: rest => (true, rest)
    | '+' :: rest => (false, rest)
    | t => (false, t)
  (natural? (t.reverse.dropWhile isSpace).reverse).map fun n => if isNegative then -n else n

/-- The number that the digits at the start of a text make in a base, and what follows them. -/
def digits (base : Nat) (t : Text) : Nat × Text :=
  let isDigit (c : Char) : Bool := (Text.hexDigit? c).any (· < base)
  ((t.takeWhile isDigit).foldl (fun n c => base * n + (Text.hexDigit? c).getD 0) 0,
    t.dropWhile isDigit)

/-- A text filled up with spaces at its start to so many characters. -/
def padLeft (width : Nat) (t : Text) : Text := List.replicate (width - t.length) ' ' ++ t

/-- A text filled up with spaces at its end to so many characters. -/
def padRight (width : Nat) (t : Text) : Text := t ++ List.replicate (width - t.length) ' '

end Retint.Shell.Raw
