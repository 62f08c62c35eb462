import Retint.Text

/-!
# Tokens of stylesheets

The pieces that the text of a stylesheet is made of, each recognized at the start of a text and
measured in characters. Between tokens there may be white space and comments of both kinds.

## Main definitions

* `Sheet.Place` — a place in a source: its byte offset and the text from there on
* `Sheet.comment?`, `string?`, `identifier?`, `plainValue?`, `quantity?`, `hexColor?`
* `Sheet.valueWord?`, `nameWord?` — what stands between the signs of a value or of a selector
* `Sheet.colonAfter` — whether the colon after a name makes a declaration
-/

namespace Retint.Sheet

/-! ### Places -/

/-- A place in a source. -/
structure Place where
  offset : Nat
  rest : Text

/-- The place after the next `n` characters. -/
def Place.advance : Nat → Place → Place
  | 0, p => p
  | n + 1, ⟨offset, rest⟩ =>
    match rest with
    | [] => ⟨offset, []⟩
    | c :: rest => advance n ⟨offset + c.utf8Size, rest⟩

/-! ### Characters -/

def isSpace (c : Char) : Bool :=
  c == ' ' || c == '\t' || c == '\n' || c == '\r' || c == '\x0B' || c == '\x0C'

/-- Letters of names; beyond ASCII those of the first Latin supplement. -/
def isNameStart (c : Char) : Bool :=
  c.isAlpha || c == '_' || ('\u00A0' ≤ c && c ≤ '\u00FF')

def isNameChar (c : Char) : Bool := isNameStart c || c.isDigit || c == '-'

/-- The characters that end a plain value, a slash aside. -/
def endsPlain (c : Char) : Bool := isSpace c || ",;!\x7b\x7d()[]".toList.contains c

/-! ### Tokens -/

/-- The characters up to and including the end of a comment. -/
def commentBody? : Text → Option Nat
  | [] => none
  | '*' :: '/' :: _ => some 2
  | _ :: rest => (commentBody? rest).map (· + 1)

/-- A comment between `/*` and `*/`. -/
def blockComment? : Text → Option Nat
  | '/' :: '*' :: rest => (commentBody? rest).map (· + 2)
  | _ => none

/-- A comment from `//` to the end of the line. -/
def lineComment? : Text → Option Nat
  | '/' :: '/' :: rest => some (2 + (rest.takeWhile (· != '\n')).length)
  | _ => none

/-- The characters up to and including the closing quote; a backslash keeps the next one. -/
def stringBody? (quote : Char) : Text → Option Nat
  | [] => none
  | '\\' :: _ :: rest => (stringBody? quote rest).map (· + 2)
  | c :: rest => if c = quote then some 1 else (stringBody? quote rest).map (· + 1)

/-- A text in quotes. -/
def string? : Text → Option Nat
  | '"' :: rest => (stringBody? '"' rest).map (· + 1)
  | '\'' :: rest => (stringBody? '\'' rest).map (· + 1)
  | _ => none

/-- A name: letters, digits and hyphens, of which one or two hyphens may lead. -/
def identifier? : Text → Option Nat
  | '-' :: '-' :: rest => some (2 + (rest.takeWhile isNameChar).length)
  | '-' :: c :: rest =>
    if isNameStart c then some (2 + (rest.takeWhile isNameChar).length) else none
  | c :: rest => if isNameStart c then some (1 + (rest.takeWhile isNameChar).length) else none
  | [] => none

/-- The characters of a plain value from its first letter on. A slash needs a character after it
that can stand in a plain value and does not begin a comment. -/
def plainTail : Text → Nat
  | '/' :: c :: rest => if c = '*' ∨ endsPlain c then 0 else plainTail rest + 2
  | c :: rest => if c = '/' ∨ endsPlain c then 0 else plainTail rest + 1
  | [] => 0

/-- A plain value: hyphens, underscores and slashes, a letter, and what follows without a gap. An
address such as `http://host` is one plain value, so its slashes begin no comment. -/
def plainValue? : Text → Option Nat
  | '/' :: c :: rest =>
    if c = '*' ∨ endsPlain c then none else (plainValue? rest).map (· + 2)
  | c :: rest =>
    if c.isAlpha then some (plainTail rest + 1)
    else if c = '-' ∨ c = '_' then (plainValue? rest).map (· + 1)
    else none
  | [] => none

/-- The digits that a text starts with. -/
def digits (t : Text) : Nat := (t.takeWhile Char.isDigit).length

/-- A point with digits after it. -/
def fraction (t : Text) : Nat :=
  match t with
  | '.' :: rest => if digits rest = 0 then 0 else digits rest + 1
  | _ => 0

/-- An exponent, whose sign can only be a minus. -/
def exponent (t : Text) : Nat :=
  match t with
  | e :: '-' :: rest => if (e == 'e' || e == 'E') && digits rest != 0 then digits rest + 2 else 0
  | e :: rest => if (e == 'e' || e == 'E') && digits rest != 0 then digits rest + 1 else 0
  | [] => 0

/-- A number without its unit. -/
def number? (t : Text) : Option Nat :=
  let sign := match t with
    | '+' :: _ | '-' :: _ => 1
    | _ => 0
  let whole := digits (t.drop sign)
  let part := fraction (t.drop (sign + whole))
  if whole + part = 0 then none
  else some (sign + whole + part + exponent (t.drop (sign + whole + part)))

/-- The unit right after a number. If a plain value starts there that is longer, it is no unit. -/
def unit (t : Text) : Nat :=
  let n := (t.takeWhile fun c => c.isAlpha || c == '%').length
  if n < (plainValue? t).getD 0 then 0 else n

/-- A number with its unit. -/
def quantity? (t : Text) : Option Nat := (number? t).map fun n => n + unit (t.drop n)

/-- A color in hexadecimal digits, three to eight of them. -/
def hexColor? : Text → Option Nat
  | '#' :: rest =>
    let n := ((rest.take 8).takeWhile fun c => (Text.hexDigit? c).isSome).length
    if n < 3 then none else some (n + 1)
  | _ => none

/-- The mark of an important declaration. -/
def important? (t : Text) : Option Nat :=
  let mark := "!important".toList
  if Text.startsWith mark t then some mark.length else none

/-- A character after a backslash. -/
def escape? : Text → Option Nat
  | '\\' :: _ :: _ => some 2
  | _ => none

/-- The longer one of two tokens. -/
def longer (m n : Option Nat) : Option Nat :=
  match m, n with
  | some m, some n => some (max m n)
  | some m, none => some m
  | none, n => n

/-- A token of a value other than a bracket or a sign: of the words that can stand here the longest
one. -/
def valueWord? (t : Text) : Option Nat :=
  (string? t).or ((hexColor? t).or ((important? t).or ((quantity? t).or
    (longer (identifier? t) (plainValue? t)))))

/-- A token of a selector or of the head of an at-rule other than a bracket or a sign. -/
def nameWord? (t : Text) : Option Nat := (string? t).or ((escape? t).or (identifier? t))

/-! ### Gaps -/

/-- A comment of either kind. -/
def comment? (t : Text) : Option Nat := (blockComment? t).or (lineComment? t)

/-! ### Colons -/

/-- Whether a brace is opened before a semicolon or a closing brace comes. -/
def opensBlockFrom : Text → Bool
  | [] => false
  | c :: rest =>
    if c = '\x7b' then true
    else if c = ';' ∨ c = '\x7d' then false
    else opensBlockFrom rest

/-- Whether a brace is opened after a colon and before a semicolon or a closing brace comes. The
character right after the colon is not the brace that is looked for. -/
def opensBlock : Text → Bool
  | [] => false
  | c :: rest => if c = ';' ∨ c = '\x7d' then false else opensBlockFrom rest

/-- What follows the name at the start of an item. -/
inductive Colon
  /-- The colon of a declaration, after so many characters. -/
  | declaration (before : Nat)
  /-- Anything else; the name belongs to a selector. -/
  | none
deriving DecidableEq

/-- The colon after a name. Right after the name, or after a comment, it belongs to a selector if a
block is opened before the item ends; after white space, only if no white space follows it and a
block is opened. Two colons always belong to a selector. -/
def colonAfter : Nat → Nat → Text → Colon
  | 0, _, _ => .none
  | fuel + 1, before, t =>
    let spaces := (t.takeWhile isSpace).length
    let afterSpaces := t.dropWhile isSpace
    match afterSpaces with
    | ':' :: rest =>
      match rest with
      | ':' :: _ => .none
      | _ =>
        let startsSelector : Bool := match spaces, rest with
          | 0, rest => opensBlock rest
          | _ + 1, c :: rest => !isSpace c && opensBlockFrom (c :: rest)
          | _ + 1, [] => false
        if startsSelector then .none else .declaration (before + spaces)
    | _ =>
      match comment? afterSpaces with
      | some n => colonAfter fuel (before + spaces + n) (afterSpaces.drop n)
      | none => .none

end Retint.Sheet
