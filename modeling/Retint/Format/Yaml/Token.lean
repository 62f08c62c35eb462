import Retint.Text

/-!
# Tokens of YAML

The pieces that a YAML text is cut into, and places in a text. Indentation is turned into tokens as
well: a block collection begins where a line is indented further than what it is in, and ends where
a line is indented less.

## Main definitions

* `Yaml.Token` — the tokens
* `Yaml.Place` — a place in a text, with its line and column
-/

namespace Retint.Yaml

/-- How a scalar is written. -/
inductive Style
  | plain | quoted | literal | folded
deriving DecidableEq, Repr

/-- The pieces of a YAML text. -/
inductive Token
  | version (major minor : Nat)
  /-- The declaration of a handle for tags with what it stands for. -/
  | tagPrefix (handle lead : Text)
  | docStart | docEnd | streamEnd
  | blockList | blockMap | blockEnd
  | flowList | flowListEnd | flowMap | flowMapEnd
  /-- A hyphen or a comma, in front of the next item. -/
  | blockItem | flowItem
  | key | value
  | alias (name : Text) | anchor (name : Text)
  /-- A tag in its two parts; one without a handle is written out. -/
  | tag (handle ending : Text)
  | scalar (t : Text) (style : Style)
deriving DecidableEq, Repr

/-! ### Characters -/

def isBreak (c : Char) : Bool :=
  c == '\n' || c == '\r' || c == '\x85' || c == '\u2028' || c == '\u2029'

def isGap (c : Char) : Bool := c == ' ' || c == '\t'

/-- Whether a text is at its end, or at a gap or line break. -/
def atBlank (t : Text) : Bool := t.head?.all fun c => isGap c || isBreak c

/-- The characters that a YAML text may contain. -/
def isAllowed (c : Char) : Bool :=
  c == '\t' || c == '\n' || c == '\r' || (' ' ≤ c && c ≤ '~') || c == '\x85' ||
    ('\u00A0' ≤ c && c.toNat ≤ 0xFFFD) || 0x10000 ≤ c.toNat

/-! ### Places -/

/-- A place in a text. -/
structure Place where
  rest : Text
  line : Nat := 0
  column : Nat := 0
  index : Nat := 0

namespace Place

/-- The place after a character that is no line break. -/
def next (p : Place) : Place :=
  { p with rest := p.rest.tail, column := p.column + 1, index := p.index + 1 }

def skip : Nat → Place → Place
  | 0, p => p
  | n + 1, p => skip n p.next

/-- The place after a line break, and the line break as text. -/
def nextLine (p : Place) : Text × Place :=
  match p.rest with
  | '\r' :: '\n' :: rest => (['\n'], ⟨rest, p.line + 1, 0, p.index + 2⟩)
  | c :: rest =>
    (if c = '\u2028' ∨ c = '\u2029' then [c] else ['\n'], ⟨rest, p.line + 1, 0, p.index + 1⟩)
  | [] => ([], p)

/-- Whether a line that separates documents begins here. -/
def atSeparator (p : Place) : Bool :=
  p.column == 0 &&
    match p.rest with
    | '-' :: '-' :: '-' :: rest | '.' :: '.' :: '.' :: rest => atBlank rest
    | _ => false

/-- The place after the characters that pass the test, none of which is a line break. -/
def skipWhile (test : Char → Bool) (p : Place) : Place :=
  p.skip (p.rest.takeWhile test).length

end Place

end Retint.Yaml
