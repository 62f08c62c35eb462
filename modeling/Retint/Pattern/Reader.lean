import Retint.Pattern.Piece
import Retint.Unicode.Class
import Retint.Unicode.Fold
import Retint.Unicode.Name

/-!
# Reading patterns

Patterns are written as regular expressions with Unicode classes, flags, nested classes and their
operations, and named groups. There are no look-around and no back references. A text that does
not follow the rules is no pattern; which rule it breaks is not told.

The reader goes through the text once. Every step of the two loops, the one over a pattern and the
one over a bracketed class, takes at least one character, so each ends after as many steps as the
text has characters.

## Main definitions

* `Pattern.Flags` — what the flag letters of a pattern switch
* `Pattern.escape?` — what a backslash makes of the text after it
* `Pattern.bracketed?` — a bracketed class
* `Pattern.read?` — a whole pattern
-/

namespace Retint.Pattern

/-! ### Flags -/

/-- The switches that a pattern can set for itself. -/
structure Flags where
  ignoreCase : Bool := false
  multiLine : Bool := false
  dotAll : Bool := false
  crlf : Bool := false
  unicode : Bool := true
  verbose : Bool := false

/-- Sets the switch with a letter; the letter `U` switches greed, which does not count here. -/
def Flags.set? (flags : Flags) (letter : Char) (value : Bool) : Option Flags :=
  match letter with
  | 'i' => some { flags with ignoreCase := value }
  | 'm' => some { flags with multiLine := value }
  | 's' => some { flags with dotAll := value }
  | 'R' => some { flags with crlf := value }
  | 'u' => some { flags with unicode := value }
  | 'x' => some { flags with verbose := value }
  | 'U' => some flags
  | _ => none

/-- Reads flag letters up to `:` or `)`. A letter may come once, and so may the hyphen, after
which switches are turned off and at least one letter must come. -/
def readFlags (seen : List Char) (value : Bool) (flags : Flags) : Text → Option (Flags × Text)
  | [] => none
  | c :: rest =>
    if c = ':' ∨ c = ')' then
      if seen.head? = some '-' then none else some (flags, c :: rest)
    else if seen.contains c then none
    else if c = '-' then readFlags (c :: seen) false flags rest
    else
      match flags.set? c value with
      | some flags => readFlags (c :: seen) value flags rest
      | none => none

/-! ### White space in verbose patterns -/

/-- The text after white space and comments. A comment goes from `#` to the end of its line. -/
def skipBlanks (inComment : Bool) : Text → Text
  | [] => []
  | c :: rest =>
    if inComment then skipBlanks (c != '\n') rest
    else if Text.isBlank c then skipBlanks false rest
    else if c = '#' then skipBlanks true rest
    else c :: rest

/-- The text with what a verbose pattern skips cut off its start. -/
def Flags.skip (flags : Flags) (t : Text) : Text :=
  if flags.verbose then skipBlanks false t else t

/-! ### Classes and conditions -/

/-- A class closed under change of case, if case is ignored. -/
def Flags.close (flags : Flags) (s : CharSet) : CharSet :=
  if flags.ignoreCase then if flags.unicode then s.closeCase else s.closeAsciiCase else s

/-- The class of a single character. -/
def Flags.literal (flags : Flags) (c : Char) : CharSet :=
  if flags.ignoreCase then
    if flags.unicode then .unions ((Unicode.variants c).map CharSet.single)
    else (CharSet.single c).closeAsciiCase
  else .single c

def asciiDigits : CharSet := .span '0' '9'

def asciiBlanks : CharSet := .ofText "9-D 20"

def asciiLetters : CharSet := .ofText "41-5A 61-7A"

def asciiWord : CharSet := .unions [asciiDigits, asciiLetters, .single '_']

/-- The class of word characters. -/
def Flags.word (flags : Flags) : CharSet :=
  if flags.unicode then Unicode.wordCharacters else asciiWord

/-- Whether a character is a word character. -/
def Flags.isWord (flags : Flags) : Char → Bool :=
  if flags.unicode then Unicode.isWord else asciiWord.has

/-- The class that a letter after a backslash names. -/
def Flags.perlClass? (flags : Flags) (letter : Char) : Option CharSet :=
  match letter with
  | 'd' => some (if flags.unicode then Unicode.digits else asciiDigits)
  | 's' => some (if flags.unicode then Unicode.blanks else asciiBlanks)
  | 'w' => some flags.word
  | _ => none

/-- The bracketed names of ASCII classes. -/
def asciiClass? (name : String) : Option CharSet :=
  match name with
  | "alnum" => some (asciiDigits.union asciiLetters)
  | "alpha" => some asciiLetters
  | "ascii" => some (.ofText "0-7F")
  | "blank" => some (.ofText "9 20")
  | "cntrl" => some (.ofText "0-1F 7F")
  | "digit" => some asciiDigits
  | "graph" => some (.ofText "21-7E")
  | "lower" => some (.span 'a' 'z')
  | "print" => some (.ofText "20-7E")
  | "punct" => some (.ofText "21-2F 3A-40 5B-60 7B-7E")
  | "space" => some asciiBlanks
  | "upper" => some (.span 'A' 'Z')
  | "word" => some asciiWord
  | "xdigit" => some (.ofText "30-39 41-46 61-66")
  | _ => none

/-- A class that may be negated, with which all of its case variants are out as well. Without
Unicode a class cannot be negated: it would have bytes that are no characters. -/
def Flags.negate? (flags : Flags) (negated : Bool) (s : CharSet) : Option CharSet :=
  let s := flags.close s
  if negated then if flags.unicode then some s.complement else none else some s

/-- The start of a line if lines count, else the start of the text. -/
def Flags.lineStart (flags : Flags) (before next : Option Char) : Bool :=
  before.isNone ||
    (flags.multiLine &&
      (before == some '\n' || (flags.crlf && before == some '\r' && next != some '\n')))

/-- The end of a line if lines count, else the end of the text. -/
def Flags.lineEnd (flags : Flags) (before next : Option Char) : Bool :=
  next.isNone ||
    (flags.multiLine &&
      if flags.crlf then next == some '\r' || (next == some '\n' && before != some '\r')
      else next == some '\n')

/-- What the dot stands for. -/
def Flags.dot (flags : Flags) : CharSet :=
  if flags.dotAll then .all
  else (CharSet.ofText (if flags.crlf then "A D" else "A")).complement

/-- The condition on word boundaries with a name. -/
def wordEdge? (isWord : Char → Bool) (name : String) :
    Option (Option Char → Option Char → Bool) :=
  match name with
  | "any" => some fun before next => before.any isWord != next.any isWord
  | "none" => some fun before next => before.any isWord == next.any isWord
  | "start" => some fun before next => !before.any isWord && next.any isWord
  | "end" => some fun before next => before.any isWord && !next.any isWord
  | "start-half" => some fun before _ => !before.any isWord
  | "end-half" => some fun _ next => !next.any isWord
  | _ => none

/-! ### Escapes -/

/-- What an escape or a plain character stands for. -/
inductive Atom
  | char (c : Char)
  | cls (s : CharSet)
  | around (test : Option Char → Option Char → Bool)

/-- The characters that mean something in a pattern and therefore can be escaped anywhere. -/
def isMeta (c : Char) : Bool := "\\.+*?()|[]\x7b\x7d^$#&-~".toList.contains c

/-- Reads exactly `count` hexadecimal digits. -/
def hexDigits? (flags : Flags) : Nat → Nat → Text → Option (Char × Text)
  | 0, value, t => (Text.charOf? value).map fun c => (c, t)
  | count + 1, value, t =>
    match t with
    | [] => none
    | c :: rest => (Text.hexDigit? c).bind fun d =>
      hexDigits? flags count (16 * value + d) (flags.skip rest)

/-- Reads the characters up to a closing brace, leaving out what a verbose pattern skips. -/
def braced? (flags : Flags) : Nat → Text → Option (Text × Text)
  | 0, _ => none
  | fuel + 1, t =>
    match flags.skip t with
    | [] => none
    | '\x7d' :: rest => some ([], rest)
    | c :: rest => (braced? flags fuel rest).map fun (name, rest) => (c :: name, rest)

/-- Numbers in a pattern are below this one. -/
def numberLimit : Nat := 4294967296

/-- A character by its code point: `size` digits, or any number of them in braces. -/
def codeEscape? (flags : Flags) (size : Nat) (t : Text) : Option (Char × Text) :=
  match flags.skip t with
  | '\x7b' :: rest => do
    let (digits, rest) ← braced? flags rest.length.succ rest
    let values ← digits.mapM Text.hexDigit?
    if values.isEmpty ∨ numberLimit ≤ values.foldl (fun n d => 16 * n + d) 0 then none
    else
      let c ← Text.charOf? (values.foldl (fun n d => 16 * n + d) 0)
      some (c, flags.skip rest)
  | t => hexDigits? flags size 0 t

/-- The index of the first occurrence of `needle`, as the parts around it. -/
def cutAt? (needle : Text) : Text → Option (Text × Text)
  | [] => none
  | c :: rest =>
    match Text.dropLead? needle (c :: rest) with
    | some after => some ([], after)
    | none => (cutAt? needle rest).map fun (l, r) => (c :: l, r)

/-- A byte by two digits, or a character by any number of them in braces. Without Unicode only the
bytes of ASCII are characters. -/
def byteEscape? (flags : Flags) (t : Text) : Option (Char × Text) := do
  let (c, rest) ← codeEscape? flags 2 t
  if flags.unicode || c.toNat < 0x80 || (flags.skip t).head? == some '\x7b' then some (c, rest)
  else none

/-- The class with a name, or with a name and a value, and whether an unequal sign negates it. -/
def namedClass? (name : Text) : Option (CharSet × Bool) :=
  match cutAt? "!=".toList name with
  | some (key, value) => (Unicode.valued? key value).map fun s => (s, true)
  | none =>
    match (cutAt? ":".toList name).or (cutAt? "=".toList name) with
    | some (key, value) => (Unicode.valued? key value).map fun s => (s, false)
    | none => (Unicode.named? name).map fun s => (s, false)

/-- A class by a property's name: a letter or a name in braces. -/
def propertyEscape? (flags : Flags) (negated : Bool) (t : Text) : Option (CharSet × Text) :=
  if flags.unicode then do
    let (name, rest) ← match flags.skip t with
      | [] => none
      | '\\' :: _ => none
      | '\x7b' :: rest => braced? flags rest.length.succ rest
      | c :: rest => some ([c], flags.skip rest)
    let (s, isUnequal) ← namedClass? name
    let s ← flags.negate? (negated != isUnequal) s
    some (s, rest)
  else none

/-- A word boundary, whose kind may stand in braces after it. Braces that do not start with a
letter or a hyphen are left to be read as a count. -/
def wordBoundary? (flags : Flags) (t : Text) : Option (Atom × Text) :=
  let plain := (wordEdge? flags.isWord "any").map fun test => (Atom.around test, t)
  match t with
  | '\x7b' :: rest =>
    match flags.skip rest with
    | [] => none
    | c :: more =>
      if c.isAlpha ∨ c = '-' then do
        let (name, rest) ← braced? flags rest.length.succ (c :: more)
        let test ← wordEdge? flags.isWord (String.ofList name)
        if name = "any".toList ∨ name = "none".toList then none else some (.around test, rest)
      else plain
  | _ => plain

/-- What stands after a backslash, and the text after that. -/
def escape? (flags : Flags) : Text → Option (Atom × Text)
  | [] => none
  | c :: rest =>
    match c with
    | 'x' => (byteEscape? flags rest).map fun (d, r) => (.char d, r)
    | 'u' => (codeEscape? flags 4 rest).map fun (d, r) => (.char d, r)
    | 'U' => (codeEscape? flags 8 rest).map fun (d, r) => (.char d, r)
    | 'p' => (propertyEscape? flags false rest).map fun (s, r) => (.cls s, r)
    | 'P' => (propertyEscape? flags true rest).map fun (s, r) => (.cls s, r)
    | 'd' | 's' | 'w' => (flags.perlClass? c).map fun s => (.cls s, rest)
    | 'D' | 'S' | 'W' =>
      if flags.unicode then
        (flags.perlClass? c.toLower).map fun s => (.cls s.complement, rest)
      else none
    | 'a' => some (.char '\x07', rest)
    | 'f' => some (.char '\x0C', rest)
    | 't' => some (.char '\t', rest)
    | 'n' => some (.char '\n', rest)
    | 'r' => some (.char '\r', rest)
    | 'v' => some (.char '\x0B', rest)
    | 'A' => some (.around fun before _ => before.isNone, rest)
    | 'z' => some (.around fun _ next => next.isNone, rest)
    | 'b' => wordBoundary? flags rest
    | 'B' => (wordEdge? flags.isWord "none").map fun test => (.around test, rest)
    | '<' => (wordEdge? flags.isWord "start").map fun test => (.around test, rest)
    | '>' => (wordEdge? flags.isWord "end").map fun test => (.around test, rest)
    | c =>
      if isMeta c ∨ (c.toNat < 0x80 ∧ ¬c.isAlphanum) then some (.char c, rest) else none

/-! ### Bracketed classes -/

/-- The operations between the parts of a class. -/
inductive ClassOp
  | intersection | difference | symmetricDifference

def ClassOp.apply (op : ClassOp) (s t : CharSet) : CharSet :=
  match op with
  | .intersection => s.inter t
  | .difference => s.diff t
  | .symmetricDifference => s.symmDiff t

/-- A class, with how deep its parts are nested. -/
structure Class where
  set : CharSet
  depth : Nat

/-- A class that has been opened: whether it is negated, the left side of the operation that is
waiting for its right side, and the parts read since. -/
structure OpenClass where
  negated : Bool
  left : Option (Class × ClassOp)
  parts : List Class

namespace OpenClass

def add (o : OpenClass) (part : Class) : OpenClass := { o with parts := part :: o.parts }

/-- The union of the parts; more than one part are nested in their union. -/
def union (o : OpenClass) : Class :=
  let deepest := (o.parts.map Class.depth).foldl max 0
  ⟨.unions (o.parts.map Class.set), if o.parts.length > 1 then deepest + 1 else deepest⟩

/-- The class of all that has been read, with a waiting operation done. -/
def total (flags : Flags) (o : OpenClass) : Class :=
  match o.left with
  | none => o.union
  | some (left, op) =>
    ⟨op.apply (flags.close left.set) (flags.close o.union.set), max left.depth o.union.depth + 1⟩

def operate (flags : Flags) (o : OpenClass) (op : ClassOp) : OpenClass :=
  { o with left := some (o.total flags, op), parts := [] }

/-- The finished class. -/
def close? (flags : Flags) (o : OpenClass) : Option Class :=
  let all := o.total flags
  (flags.negate? o.negated all.set).map fun s => ⟨s, all.depth + 1⟩

end OpenClass

/-- Reads hyphens at the start of a class, which stand for themselves. -/
def leadingHyphens (flags : Flags) (o : OpenClass) : Nat → Text → OpenClass × Text
  | 0, t => (o, t)
  | fuel + 1, t =>
    match t with
    | '-' :: rest => leadingHyphens flags (o.add ⟨.single '-', 0⟩) fuel (flags.skip rest)
    | t => (o, t)

/-- Opens a class; the text starts after its bracket. A closing bracket that comes first stands
for itself. -/
def openClass? (flags : Flags) (t : Text) : Option (OpenClass × Text) :=
  match flags.skip t with
  | [] => none
  | c :: rest =>
    let (negated, t) := if c = '^' then (true, flags.skip rest) else (false, c :: rest)
    let (o, t) := leadingHyphens flags ⟨negated, none, []⟩ t.length t
    match t with
    | [] => none
    | ']' :: rest =>
      if o.parts.isEmpty then some (o.add ⟨.single ']', 0⟩, flags.skip rest) else some (o, t)
    | t => some (o, t)

/-- A named ASCII class; the text starts after its opening bracket. The outer option is empty if
there is no such class, the inner one if it cannot be used. -/
def asciiName? (flags : Flags) (t : Text) : Option (Option CharSet × Text) :=
  match t with
  | ':' :: rest => do
    let (negated, rest) := match rest with
      | '^' :: rest => (true, rest)
      | rest => (false, rest)
    let (name, rest) ← Text.cut? ':' rest
    let rest ← Text.dropLead? [']'] rest
    let s ← asciiClass? (String.ofList name)
    some (flags.negate? negated s, rest)
  | _ => none

/-- One item of a class: a character or an escape. -/
def classItem? (flags : Flags) : Text → Option (Atom × Text)
  | [] => none
  | '\\' :: rest => escape? flags rest
  | c :: rest => some (.char c, rest)

/-- One item of a class, or a range between two characters. -/
def classRange? (flags : Flags) (t : Text) : Option (CharSet × Text) := do
  let (first, rest) ← classItem? flags t
  let rest := flags.skip rest
  let single : Option (CharSet × Text) := match first with
    | .char c => if c.toNat < 0x80 || flags.unicode then some (.single c, rest) else none
    | .cls s => some (s, rest)
    | .around _ => none
  match rest with
  | [] => none
  | '-' :: more =>
    match flags.skip more with
    | ']' :: _ | '-' :: _ => single
    | more => do
      let (second, rest) ← classItem? flags more
      match first, second with
      | .char low, .char high =>
        if low ≤ high ∧ (high.toNat < 0x80 ∨ flags.unicode) then some (.span low high, rest)
        else none
      | _, _ => none
  | _ => single

/-- The loop over a bracketed class, whose enclosing classes are in `outer`. -/
def classLoop (flags : Flags) (outer : List OpenClass) (o : OpenClass) :
    Nat → Text → Option (Class × Text)
  | 0, _ => none
  | fuel + 1, t =>
    match flags.skip t with
    | [] => none
    | '[' :: rest =>
      match asciiName? flags rest with
      | some (some s, rest) => classLoop flags outer (o.add ⟨s, 0⟩) fuel rest
      | some (none, _) => none
      | none =>
        match openClass? flags rest with
        | some (inner, rest) => classLoop flags (o :: outer) inner fuel rest
        | none => none
    | ']' :: rest =>
      match o.close? flags, outer with
      | none, _ => none
      | some whole, [] => some (whole, rest)
      | some whole, parent :: outer => classLoop flags outer (parent.add whole) fuel rest
    | '&' :: '&' :: rest => classLoop flags outer (o.operate flags .intersection) fuel rest
    | '-' :: '-' :: rest => classLoop flags outer (o.operate flags .difference) fuel rest
    | '~' :: '~' :: rest => classLoop flags outer (o.operate flags .symmetricDifference) fuel rest
    | t =>
      match classRange? flags t with
      | some (s, rest) => classLoop flags outer (o.add ⟨s, 0⟩) fuel rest
      | none => none

/-- A bracketed class; the text starts after its opening bracket. -/
def bracketed? (flags : Flags) (t : Text) : Option (Class × Text) := do
  let (o, rest) ← openClass? flags t
  classLoop flags [] o rest.length.succ rest

/-! ### Whole patterns -/

/-- A group that has been opened: the branches and the items before it, whether finds of it are
kept track of, and the flags to go back to at its end. An item is `none` where flags were set: it
covers nothing and cannot be repeated. -/
structure OpenGroup where
  branches : List Piece
  items : List (Option Piece)
  isTracked : Bool
  flags : Flags

/-- How far a pattern has been read. Branches and items are in reverse order. -/
structure ReaderState where
  outer : List OpenGroup
  branches : List Piece
  items : List (Option Piece)
  flags : Flags
  names : List Text

namespace ReaderState

def add (s : ReaderState) (p : Piece) : ReaderState := { s with items := some p :: s.items }

/-- The branch that the current items make. -/
def branch (s : ReaderState) : Piece := .row (s.items.reverse.map (·.getD .nothing))

/-- The pattern that all branches of the current group make. -/
def choice (s : ReaderState) : Piece := .choice (s.branch :: s.branches).reverse

/-- Puts a repetition around the last item, if there is one that can be repeated. -/
def repeatLast? (s : ReaderState) (least : Nat) (most : Option Nat) : Option ReaderState :=
  match s.items with
  | some p :: items => some { s with items := some (p.repeated least most) :: items }
  | _ => none

def openGroup (s : ReaderState) (isTracked : Bool) (flags : Flags) (names : List Text) :
    ReaderState :=
  ⟨⟨s.branches, s.items, isTracked, s.flags⟩ :: s.outer, [], [], flags, names⟩

def closeGroup? (s : ReaderState) : Option ReaderState :=
  match s.outer with
  | [] => none
  | group :: outer =>
    some ⟨outer, group.branches, some (s.choice.group group.isTracked) :: group.items,
      group.flags, s.names⟩

end ReaderState

/-- The text after a question mark that makes a repetition lazy. -/
def skipLazy : Text → Text
  | '?' :: rest => rest
  | t => t

/-- The numbers of all scripts. -/
def numerals : CharSet := Unicode.Category.sets [.nd, .nl, .no]

/-- A group's name: a letter or underscore, then also digits, dots and brackets; `>` ends it. -/
def groupName? (t : Text) : Option (Text × Text) := do
  let (name, rest) ← Text.cut? '>' t
  let isLetter (c : Char) := c == '_' || c.isAlpha || Unicode.alphabetic.has c
  let isPart (c : Char) :=
    isLetter c || c == '.' || c == '[' || c == ']' || numerals.has c
  if name.head?.any isLetter && name.all isPart then some (name, rest) else none

/-- What the text after an opening parenthesis opens or sets. -/
def groupStart? (s : ReaderState) (t : Text) : Option (ReaderState × Text) :=
  match s.flags.skip t with
  | '?' :: '=' :: _ | '?' :: '!' :: _ | '?' :: '<' :: '=' :: _ | '?' :: '<' :: '!' :: _ => none
  | '?' :: 'P' :: '<' :: rest | '?' :: '<' :: rest =>
    match groupName? rest with
    | some (name, rest) =>
      if s.names.contains name then none
      else some (s.openGroup true s.flags (name :: s.names), rest)
    | none => none
  | '?' :: rest =>
    match readFlags [] true s.flags rest with
    | some (flags, ':' :: rest) => some (s.openGroup false flags s.names, rest)
    | some (flags, ')' :: after) =>
      if rest.head? = some ')' then none
      else some ({ s with flags := flags, items := none :: s.items }, after)
    | _ => none
  | t => some (s.openGroup true s.flags s.names, t)

/-- A decimal number with white space around it, `none` if there is no digit. -/
def decimal (flags : Flags) (t : Text) : Option Nat × Text :=
  let t := t.dropWhile Text.isBlank
  let digits := (t.takeWhile fun c => c.isDigit || (flags.verbose && Text.isBlank c)).filter
    Char.isDigit
  let rest := (t.dropWhile fun c => c.isDigit || (flags.verbose && Text.isBlank c)).dropWhile
    Text.isBlank
  (if digits.isEmpty then none else some (Text.ofDecimal digits),
    rest)

/-- A count in braces; the text starts after the opening brace. -/
def count? (flags : Flags) (t : Text) : Option (Nat × Option Nat × Text) := do
  let (least, rest) := decimal flags (flags.skip t)
  let least ← least
  let (most, rest) ← match rest with
    | ',' :: rest =>
      match flags.skip rest with
      | '\x7d' :: _ => some (none, flags.skip rest)
      | rest =>
        let (most, rest) := decimal flags rest
        most.map fun most => (some most, rest)
    | rest => some (some least, rest)
  let rest ← Text.dropLead? ['\x7d'] rest
  if most.any (· < least) ∨ numberLimit ≤ least ∨ most.any (numberLimit ≤ ·) then none
  else some (least, most, skipLazy (flags.skip rest))

/-- A single escape, dot, anchor or character. -/
def primitive? (flags : Flags) : Text → Option (Piece × Text)
  | [] => none
  | '\\' :: rest =>
    (escape? flags rest).map fun (atom, rest) =>
      match atom with
      | .char c => (.oneOf (flags.literal c) 0, rest)
      | .cls s => (.oneOf s 0, rest)
      | .around test => (.around test, rest)
  | '.' :: rest => if flags.unicode then some (.oneOf flags.dot 0, rest) else none
  | '^' :: rest => some (.around flags.lineStart, rest)
  | '$' :: rest => some (.around flags.lineEnd, rest)
  | '[' :: rest => (bracketed? flags rest).map fun (c, rest) => (.oneOf c.set c.depth, rest)
  | c :: rest => some (.oneOf (flags.literal c) 0, rest)

/-- One step over the pattern's text. -/
def step? (s : ReaderState) : Text → Option (ReaderState × Text)
  | [] => none
  | '(' :: rest => groupStart? s rest
  | ')' :: rest => s.closeGroup?.map fun s => (s, rest)
  | '|' :: rest => some ({ s with branches := s.branch :: s.branches, items := [] }, rest)
  | '?' :: rest => (s.repeatLast? 0 (some 1)).map fun s => (s, skipLazy rest)
  | '*' :: rest => (s.repeatLast? 0 none).map fun s => (s, skipLazy rest)
  | '+' :: rest => (s.repeatLast? 1 none).map fun s => (s, skipLazy rest)
  | '\x7b' :: rest =>
    match count? s.flags rest with
    | some (least, most, rest) => (s.repeatLast? least most).map fun s => (s, rest)
    | none => none
  | t => (primitive? s.flags t).map fun (p, rest) => (s.add p, rest)

/-- The loop over a pattern's text. -/
def readLoop : Nat → ReaderState → Text → Option Piece
  | 0, _, _ => none
  | fuel + 1, s, t =>
    match s.flags.skip t with
    | [] => if s.outer.isEmpty then some s.choice else none
    | t =>
      match step? s t with
      | some (s, rest) => readLoop fuel s rest
      | none => none

/-- The pattern that a text describes, if it describes one that can be used. -/
def read? (t : Text) : Option Pattern :=
  match readLoop t.length.succ ⟨[], [], [], {}, []⟩ t with
  | some p => if p.isUsable then some p.pattern else none
  | none => none

end Retint.Pattern
