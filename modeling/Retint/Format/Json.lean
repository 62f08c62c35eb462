import Retint.Format.Data

/-!
# JSON

Reads JSON strictly: no comments, no trailing commas, no control characters in strings. A number is
only checked for its form. Strings may escape half of a surrogate pair; such a string is a value
that can only be passed over.

## Main definitions

* `Json.string?`, `Json.number?` — scalars
* `Json.value` — any value
* `Json.read` — a whole text, and whether anything follows the value
-/

namespace Retint.Json

def isSpace (c : Char) : Bool := c == ' ' || c == '\t' || c == '\n' || c == '\r'

def skip (t : Text) : Text := t.dropWhile isSpace

/-! ### Strings -/

/-- Four hexadecimal digits, and the text after them. -/
def hexUnit? : Text → Option (Nat × Text)
  | a :: b :: c :: d :: rest => do
    let a ← Text.hexDigit? a
    let b ← Text.hexDigit? b
    let c ← Text.hexDigit? c
    let d ← Text.hexDigit? d
    some (((a * 16 + b) * 16 + c) * 16 + d, rest)
  | _ => none

/-- The character that a letter after a backslash stands for. -/
def escape? (c : Char) : Option Char :=
  match c with
  | '"' => some '"'
  | '\\' => some '\\'
  | '/' => some '/'
  | 'b' => some '\x08'
  | 'f' => some '\x0C'
  | 'n' => some '\n'
  | 'r' => some '\r'
  | 't' => some '\t'
  | _ => none

/-- The units of a string after its opening quote, and the text after its closing quote. A unit is
a code point; one between `0xD800` and `0xDFFF` is half of a surrogate pair. -/
def units? : Nat → Text → Option (List Nat × Text)
  | 0, _ => none
  | fuel + 1, t =>
    match t with
    | [] => none
    | '"' :: rest => some ([], rest)
    | '\\' :: 'u' :: rest => do
      let (unit, rest) ← hexUnit? rest
      let (more, rest) ← units? fuel rest
      some (unit :: more, rest)
    | '\\' :: c :: rest => do
      let c ← escape? c
      let (more, rest) ← units? fuel rest
      some (c.toNat :: more, rest)
    | c :: rest =>
      if c.toNat < 0x20 then none
      else (units? fuel rest).map fun (more, rest) => (c.toNat :: more, rest)

/-- The text with these units; the halves of a surrogate pair make one character. -/
def ofUnits? : List Nat → Option Text
  | [] => some []
  | u :: v :: rest =>
    if 0xD800 ≤ u ∧ u < 0xDC00 ∧ 0xDC00 ≤ v ∧ v < 0xE000 then
      (ofUnits? rest).map (Char.ofNat (0x10000 + (u - 0xD800) * 0x400 + (v - 0xDC00)) :: ·)
    else if 0xD800 ≤ u ∧ u < 0xE000 then none
    else (ofUnits? (v :: rest)).map (Char.ofNat u :: ·)
  | [u] => if 0xD800 ≤ u ∧ u < 0xE000 then none else some [Char.ofNat u]

/-- A string after its opening quote. -/
def string? (t : Text) : Option (Data × Text) :=
  (units? (t.length + 1) t).map fun (units, rest) =>
    (match ofUnits? units with
      | some s => .text s false
      | none => .other, rest)

/-! ### Numbers -/

/-- The text after one or more digits. -/
def digits? (t : Text) : Option Text :=
  match t.takeWhile Char.isDigit with
  | [] => none
  | _ => some (t.dropWhile Char.isDigit)

/-- The text after a number. -/
def number? (t : Text) : Option Text := do
  let t := match t with
    | '-' :: rest => rest
    | t => t
  let t ← match t with
    | '0' :: c :: rest => if c.isDigit then none else some (c :: rest)
    | t => digits? t
  let t ← match t with
    | '.' :: rest => digits? rest
    | t => some t
  match t with
  | 'e' :: '+' :: rest | 'e' :: '-' :: rest | 'E' :: '+' :: rest | 'E' :: '-' :: rest =>
    digits? rest
  | 'e' :: rest | 'E' :: rest => digits? rest
  | t => some t

/-! ### Values -/

/-- The words that are values. -/
def words : List (Text × Data) :=
  [("null".toList, .null), ("true".toList, .bool true), ("false".toList, .bool false)]

/-- A scalar at the start of a text. -/
def scalar? (t : Text) : Option (Data × Text) :=
  match t with
  | '"' :: rest => string? rest
  | t =>
    match words.findSome? fun (word, d) => (Text.dropLead? word t).map fun rest => (d, rest) with
    | some found => some found
    | none => (number? t).map fun rest => (.other, rest)

mutual

/-- A value at the start of a text, and the text after it if the value is complete. -/
def value : Nat → Text → Data × Option Text
  | 0, _ => (.broken, none)
  | fuel + 1, t =>
    match skip t with
    | '[' :: rest =>
      match skip rest with
      | ']' :: rest => (.list [], some rest)
      | rest =>
        let (items, rest) := items fuel rest
        (.list items, rest)
    | '\x7b' :: rest =>
      match skip rest with
      | '\x7d' :: rest => (.record [], some rest)
      | rest =>
        let (entries, rest) := entries fuel rest
        (.record entries, rest)
    | t =>
      match scalar? t with
      | some (d, rest) => (d, some rest)
      | none => (.broken, none)

/-- The items of a list up to its closing bracket. -/
def items : Nat → Text → List Data × Option Text
  | 0, _ => ([.broken], none)
  | fuel + 1, t =>
    match value fuel t with
    | (d, none) => ([d], none)
    | (d, some rest) =>
      match skip rest with
      | ',' :: rest =>
        let (more, rest) := items fuel rest
        (d :: more, rest)
      | ']' :: rest => ([d], some rest)
      | _ => ([d, .broken], none)

/-- The entries of a record up to its closing brace. -/
def entries : Nat → Text → List (Data × Data) × Option Text
  | 0, _ => ([(.broken, .broken)], none)
  | fuel + 1, t =>
    match skip t with
    | '"' :: rest =>
      match string? rest with
      | none => ([(.broken, .broken)], none)
      | some (key, rest) =>
        match skip rest with
        | ':' :: rest =>
          match value fuel rest with
          | (d, none) => ([(key, d)], none)
          | (d, some rest) =>
            match skip rest with
            | ',' :: rest =>
              let (more, rest) := entries fuel rest
              ((key, d) :: more, rest)
            | '\x7d' :: rest => ([(key, d)], some rest)
            | _ => ([(key, d), (.broken, .broken)], none)
        | _ => ([(key, .broken)], none)
    | _ => ([(.broken, .broken)], none)

end

/-- The value of a whole text, and whether only white space follows it. -/
def read (t : Text) : Data × Bool :=
  match value (2 * t.length + 2) t with
  | (d, some rest) => (d, (skip rest).isEmpty)
  | (d, none) => (d, false)

end Retint.Json
