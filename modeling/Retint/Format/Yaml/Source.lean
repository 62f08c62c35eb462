import Retint.Format.Yaml.Scalar
import Retint.Format.Yaml.Tag

/-!
# Cutting YAML into tokens

Whether something is the key of a mapping is only known at the colon after it. So tokens wait in a
queue as long as the first of them could be the beginning of a key; the colon then puts the sign of
a key in front of it, and the beginning of a mapping if the key is the first of one.

A text is cut only as far as tokens are asked for. What is wrong further on is met later.

## Main definitions

* `Yaml.Source` — how far a text has been cut, and the tokens that wait
* `Yaml.Source.peek?` — the next token
-/

namespace Retint.Yaml

/-- A place where a key could begin. -/
structure PossibleKey where
  /-- The number of the token that begins there. -/
  token : Nat
  required : Bool
  line : Nat
  column : Nat
  index : Nat
deriving DecidableEq

/-- How far a text has been cut into tokens. -/
structure Source where
  place : Place
  /-- The tokens that wait. -/
  queue : List Token := []
  /-- The number of tokens that have been taken. -/
  taken : Nat := 0
  /-- The columns of the block collections that are open, the innermost first. -/
  indents : List Nat := []
  /-- Whether a key could begin here. -/
  keyAllowed : Bool := true
  /-- The place where a key could have begun, for the innermost flow collection or the block
  level. -/
  possible : Option PossibleKey := none
  /-- The same for the flow collections around it and the block level. -/
  outer : List (Option PossibleKey) := []

namespace Source

def inFlow (s : Source) : Bool := !s.outer.isEmpty

def emit (s : Source) (t : Token) : Source := { s with queue := s.queue ++ [t] }

/-- Puts a token in front of the one with a number. -/
def insert (s : Source) (number : Nat) (t : Token) : Source :=
  let n := number - s.taken
  { s with queue := s.queue.take n ++ t :: s.queue.drop n }

/-- Whether the column is further in than the innermost block collection. -/
def isDeeper (s : Source) (column : Nat) : Bool := s.indents.head?.all (· < column)

/-- Begins a block collection if the column is further in. -/
def enter (s : Source) (column : Nat) (t : Token) : Source :=
  if !s.inFlow && s.isDeeper column then
    { s.emit t with indents := column :: s.indents }
  else s

/-- Ends the block collections that are further in than `column`; all of them without one. -/
def leave (column : Option Nat) (s : Source) : Source :=
  if s.inFlow then s
  else
    let closed := s.indents.takeWhile fun n => column.all (· < n)
    { s with
      indents := s.indents.drop closed.length
      queue := s.queue ++ closed.map fun _ => Token.blockEnd }

/-- Gives up the place where a key could have begun; a key that had to be there is missed. -/
def dropKey (s : Source) : Option Source :=
  if s.possible.any (·.required) then none else some { s with possible := none }

/-- Notes that a key could begin here. -/
def noteKey (s : Source) : Option Source :=
  if s.keyAllowed then do
    let s ← s.dropKey
    let p := s.place
    let required := !s.inFlow && s.indents.head? == some p.column
    some { s with
      possible := some ⟨s.taken + s.queue.length, required, p.line, p.column, p.index⟩ }
  else some s

/-- Skips gaps, comments and line breaks up to the next token. A tab is no gap where a key could
begin. A mark of byte order may start a line. -/
def toToken : Nat → Source → Source
  | 0, s => s
  | fuel + 1, s =>
    let p := s.place
    let p := if p.column = 0 ∧ p.rest.head? = some '\uFEFF' then p.next else p
    let p := p.skipWhile fun c => c == ' ' || ((s.inFlow || !s.keyAllowed) && c == '\t')
    let p := if p.rest.head? = some '#' then p.skipWhile (! isBreak ·) else p
    if p.rest.head?.any isBreak then
      toToken fuel { s with place := p.nextLine.2, keyAllowed := s.keyAllowed || !s.inFlow }
    else { s with place := p }

/-- Whether a key did not end on its line or goes on for too long. -/
def isStale (s : Source) (key : PossibleKey) : Bool :=
  key.line < s.place.line || key.index + 1024 < s.place.index

/-- Gives up the keys that did not end in time. -/
def dropStale (s : Source) : Option Source :=
  if (s.possible :: s.outer).any fun key => key.any fun k => s.isStale k && k.required then none
  else
    let fresh (key : Option PossibleKey) : Option PossibleKey := key.filter (! s.isStale ·)
    some { s with possible := fresh s.possible, outer := s.outer.map fresh }

/-- Takes one character as a token. -/
def single (s : Source) (t : Token) (keyAllowed : Bool) : Source :=
  { s.emit t with place := s.place.next, keyAllowed := keyAllowed }

/-- Takes a token that ends at a place. -/
def upTo (s : Source) (t : Token) (after : Place) (keyAllowed : Bool) : Source :=
  { s.emit t with place := after, keyAllowed := keyAllowed }

/-- The colon after a key, or of a key that is empty. -/
def colon (s : Source) : Option Source :=
  match s.possible with
  | some key =>
    let opens := !s.inFlow && s.isDeeper key.column
    let s := s.insert key.token .key
    let s := if opens then
        { s.insert key.token .blockMap with indents := key.column :: s.indents }
      else s
    some ({ s with possible := none }.single .value false)
  | none =>
    if s.inFlow then some (s.single .value false)
    else if s.keyAllowed then some ((s.enter s.place.column .blockMap).single .value true)
    else none

/-- Opens a flow collection. -/
def openFlow (s : Source) (t : Token) : Option Source := do
  let s ← s.noteKey
  some { s.single t true with outer := s.possible :: s.outer, possible := none }

/-- Closes a flow collection. -/
def closeFlow (s : Source) (t : Token) : Option Source := do
  let s ← s.dropKey
  let s := match s.outer with
    | key :: outer => { s with possible := key, outer := outer }
    | [] => s
  some (s.single t false)

/-- A sign in front of an item or key that needs a place where a key could begin. -/
def blockSign (s : Source) (collection t : Token) : Option Source :=
  if s.inFlow then do
    let s ← s.dropKey
    some (s.single t (t == .blockItem))
  else if s.keyAllowed then do
    let s ← (s.enter s.place.column collection).dropKey
    some (s.single t true)
  else none

/-- A separator of documents. -/
def separator (s : Source) (t : Token) : Option Source := do
  let s ← (s.leave none).dropKey
  some (s.upTo t (s.place.skip 3) false)

/-- Whether a plain scalar can begin with the text. -/
def startsPlain (inFlow : Bool) : Text → Bool
  | [] => false
  | c :: rest =>
    if c = '-' then !rest.head?.any isGap
    else if c = '?' ∨ c = ':' then !inFlow && !atBlank rest
    else !(isGap c || isBreak c || ",[]\x7b\x7d#&*!|>'\"%@`".toList.contains c)

/-- Takes the next token, before which nothing is to be skipped. -/
def token (fuel : Nat) (s : Source) : Option Source :=
  let p := s.place
  match p.rest with
  | [] => none
  | c :: rest =>
    if p.column = 0 ∧ c = '%' then do
      let s ← (s.leave none).dropKey
      let (t, q) ← directive? p
      some (s.upTo t q false)
    else if p.atSeparator then s.separator (if c = '-' then .docStart else .docEnd)
    else if c = '[' then s.openFlow .flowList
    else if c = '\x7b' then s.openFlow .flowMap
    else if c = ']' then s.closeFlow .flowListEnd
    else if c = '\x7d' then s.closeFlow .flowMapEnd
    else if c = ',' then s.dropKey.map (·.single .flowItem true)
    else if c = '-' ∧ atBlank rest then s.blockSign .blockList .blockItem
    else if c = '?' ∧ (s.inFlow ∨ atBlank rest) then s.blockSign .blockMap .key
    else if c = ':' ∧ (s.inFlow ∨ atBlank rest) then s.colon
    else if c = '*' ∨ c = '&' then do
      let s ← s.noteKey
      let (name, q) ← name? p.next
      some (s.upTo (if c = '*' then .alias name else .anchor name) q false)
    else if c = '!' then do
      let s ← s.noteKey
      let (t, q) ← tag? s.inFlow p
      some (s.upTo t q false)
    else if (c = '|' ∨ c = '>') ∧ ¬s.inFlow then do
      let s ← s.dropKey
      let (t, q) ← blockScalar (c == '|') s.indents.head? fuel p.next
      some (s.upTo (.scalar t (if c = '|' then .literal else .folded)) q true)
    else if c = '\'' ∨ c = '"' then do
      let s ← s.noteKey
      let (t, q) ← quotedScalar (c == '"') fuel p.next
      some (s.upTo (.scalar t .quoted) q false)
    else if startsPlain s.inFlow p.rest then do
      let s ← s.noteKey
      let indent := match s.indents.head? with
        | some n => n + 1
        | none => 0
      let (t, q, crossed) ← plainScalar s.inFlow indent fuel p
      some (s.upTo (.scalar t .plain) q crossed)
    else none

/-- Takes the next token, together with the ends of the collections that it is outside of. -/
def fetch (s : Source) : Option Source := do
  let fuel := s.place.rest.length + 1
  let s ← (s.toToken fuel).dropStale
  if s.place.rest.isEmpty then
    let s ← (s.leave none).dropKey
    let p := s.place
    let p := if p.column = 0 then p else { p with line := p.line + 1, column := 0 }
    some (s.upTo .streamEnd p false)
  else (s.leave (some s.place.column)).token fuel

/-- Whether it is not known yet which token comes next. -/
def isOpen (s : Source) : Bool :=
  s.queue.isEmpty || (s.possible :: s.outer).any fun key => key.any (·.token = s.taken)

/-- Takes tokens until it is known which one comes next. -/
def fill : Nat → Source → Option Source
  | 0, _ => none
  | fuel + 1, s => if s.isOpen then (s.fetch).bind (fill fuel) else some s

/-- The next token. There is none if the text goes wrong before it is known. -/
def peek? (s : Source) : Option (Token × Source) := do
  let s ← s.fill (s.place.rest.length + 3)
  let t ← s.queue.head?
  some (t, s)

/-- The source after the next token. -/
def next (s : Source) : Source := { s with queue := s.queue.tail, taken := s.taken + 1 }

/-- The source of a whole text; none if a character is not allowed in it. -/
def ofText? (t : Text) : Option Source :=
  if t.all isAllowed then some { place := { rest := t } } else none

end Source

end Retint.Yaml
