import Retint.Format.Yaml.Token

/-!
# Names, tags and directives of YAML

What is written with a sign in front: anchors and aliases, tags, and the directives before a
document.

## Main definitions

* `Yaml.name?` — the name of an anchor or alias
* `Yaml.tag?` — a tag in its two parts
* `Yaml.directive?` — a directive
-/

namespace Retint.Yaml

/-- The characters of names of anchors, handles and directives. -/
def isNameChar (c : Char) : Bool := c.isAlphanum || c == '_' || c == '-'

/-- The name at a place, which something has to separate from what follows, and the place after
it. -/
def name? (p : Place) : Option (Text × Place) :=
  match p.rest.takeWhile isNameChar with
  | [] => none
  | name =>
    let q := p.skip name.length
    if atBlank q.rest || q.rest.head?.any ("?:,]\x7d%@`".toList.contains ·) then some (name, q)
    else none

/-! ### Tags -/

/-- The characters of the address that a tag is. -/
def isTagChar (c : Char) : Bool := isNameChar c || ";/?:@&=+$.%!~*'()".toList.contains c

/-- The octet that two hexadecimal digits after a percent sign stand for. -/
def octet? : Text → Option (Nat × Text)
  | '%' :: a :: b :: rest => do
    let a ← Text.hexDigit? a
    let b ← Text.hexDigit? b
    some (16 * a + b, rest)
  | _ => none

/-- The number of octets that follow a leading octet of UTF-8. -/
def trailing? (octet : Nat) : Option Nat :=
  if octet < 0x80 then some 0
  else if octet / 0x20 = 6 then some 1
  else if octet / 0x10 = 14 then some 2
  else if octet / 8 = 30 then some 3
  else none

/-- So many trailing octets of UTF-8. -/
def octets? : Nat → Text → Option (List Nat × Text)
  | 0, t => some ([], t)
  | n + 1, t => do
    let (octet, rest) ← octet? t
    if octet / 0x40 = 2 then
      let (more, rest) ← octets? n rest
      some (octet :: more, rest)
    else none

/-- The octets of one character that is written with percent signs. -/
def escaped? (t : Text) : Option (List Nat × Text) := do
  let (octet, rest) ← octet? t
  let (more, rest) ← octets? (← trailing? octet) rest
  some (octet :: more, rest)

/-- The characters of an address up to one that cannot stand in it. An octet is kept as the
character with its number. -/
def address (isChar : Char → Bool) : Nat → Place → Option (Text × Place)
  | 0, p => some ([], p)
  | fuel + 1, p =>
    match p.rest with
    | [] => some ([], p)
    | c :: _ =>
      if c = '%' then do
        let (octets, rest) ← escaped? p.rest
        let (more, q) ← address isChar fuel (p.skip (p.rest.length - rest.length))
        some (octets.map Char.ofNat ++ more, q)
      else if isChar c then do
        let (more, q) ← address isChar fuel p.next
        some (c :: more, q)
      else some ([], p)

/-- The handle at a place: an exclamation mark, name characters, and another exclamation mark if
there is one. -/
def handle (p : Place) : Text × Place :=
  let name := p.rest.tail.takeWhile isNameChar
  let q := p.skip (name.length + 1)
  match q.rest with
  | '!' :: _ => ('!' :: (name ++ ['!']), q.next)
  | _ => ('!' :: name, q)

/-- Whether a text that starts with an exclamation mark is a whole handle. -/
def isHandle (t : Text) : Bool := t.length > 1 && t.getLast? == some '!'

/-- The tag at a place in its two parts, and the place after it. -/
def tag? (inFlow : Bool) (p : Place) : Option (Token × Place) := do
  let fuel := p.rest.length
  let (token, q) ← match p.rest with
    | '!' :: '<' :: _ => do
      let (t, q) ← address (fun c => isTagChar c || ",[]".toList.contains c) fuel (p.skip 2)
      if !t.isEmpty && q.rest.head? == some '>' then some (Token.tag [] t, q.next) else none
    | _ =>
      let (h, q) := handle p
      if isHandle h then do
        let (t, q) ← address isTagChar fuel q
        if t.isEmpty then none else some (.tag h t, q)
      else do
        let (t, q) ← address isTagChar fuel q
        let t := h.tail ++ t
        some (if t.isEmpty then .tag [] ['!'] else .tag ['!'] t, q)
  if atBlank q.rest || (inFlow && q.rest.head? == some ',') then some (token, q) else none

/-! ### Directives -/

/-- A part of a version, which has at most nine digits. -/
def versionPart? (p : Place) : Option (Nat × Place) :=
  let digits := p.rest.takeWhile Char.isDigit
  if digits.isEmpty || 9 < digits.length then none
  else some (Text.ofDecimal digits, p.skip digits.length)

/-- The version after the name of its directive. -/
def version? (p : Place) : Option (Token × Place) := do
  let (major, p) ← versionPart? (p.skipWhile isGap)
  if p.rest.head? ≠ some '.' then none
  else
    let (minor, p) ← versionPart? p.next
    some (.version major minor, p)

/-- The handle and what it stands for after the name of their directive. -/
def tagPrefix? (p : Place) : Option (Token × Place) := do
  let p := p.skipWhile isGap
  if p.rest.head? ≠ some '!' then none
  else
    let (h, p) := handle p
    if h ≠ ['!'] && !isHandle h || !p.rest.head?.any isGap then none
    else
      let p := p.skipWhile isGap
      let (t, q) ← address (fun c => isTagChar c || ",[]".toList.contains c) p.rest.length p
      if !t.isEmpty && atBlank q.rest then some (.tagPrefix h t, q) else none

/-- The directive at a place, of which there are two kinds, and the place on the next line. -/
def directive? (p : Place) : Option (Token × Place) := do
  let name := p.rest.tail.takeWhile isNameChar
  let q := p.skip (name.length + 1)
  if !atBlank q.rest then none
  else
    let (token, q) ←
      if name = "YAML".toList then version? q
      else if name = "TAG".toList then tagPrefix? q
      else none
    let q := q.skipWhile isGap
    let q := if q.rest.head? = some '#' then q.skipWhile (! isBreak ·) else q
    if q.rest.head?.any (! isBreak ·) then none else some (token, q.nextLine.2)

end Retint.Yaml
