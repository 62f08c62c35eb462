import Retint.Pattern.Basic
import Retint.Unicode.CharSet

/-!
# Measured patterns

A pattern that somebody wrote may be too deeply nested or too large to be used. Its parts are
measured while they are put together: how deep they are nested, and how much memory a machine
takes that reads them byte by byte, with a copy of its body for every round of a repetition.

## Main definitions

* `CharSet.machineSize` — the memory that one character of a set takes
* `Pattern.Piece` — a pattern with its measures
* `Pattern.Piece.isUsable` — whether the measures stay within the limits
-/

namespace Retint

/-! ### Sets of characters in bytes -/

/-- The numbers from `low` to `high`, both with one digit and `count` more digits in base 64, as
rows of ranges: in each row every digit runs over its range by itself. -/
def rows : Nat → Nat → Nat → List (List (Nat × Nat))
  | 0, low, high => [[(low, high)]]
  | count + 1, low, high =>
    let unit := 1 <<< (6 * (count + 1))
    let (first, last) := (low / unit, high / unit)
    let under (lead : Nat) := (rows count · · |>.map ((lead, lead) :: ·))
    if first = last then under first (low % unit) (high % unit)
    else
      let whole := low % unit = 0
      let closed := high % unit = unit - 1
      let (start, stop) := (if whole then first else first + 1, if closed then last + 1 else last)
      (if whole then [] else under first (low % unit) (unit - 1)) ++
        (if start < stop then
          [(start, stop - 1) :: List.replicate (count + 1) (0, 63)]
        else []) ++
        (if closed then [] else under last 0 (high % unit))

/-- The code points that take the same number of bytes, with the number of bytes after the first
and the mark of the first; the surrogates are left out. -/
def byteLengths : List (Nat × Nat × Nat × Nat) := [
  (0, 0x7F, 0, 0), (0x80, 0x7FF, 1, 0xC0), (0x800, 0xD7FF, 2, 0xE0), (0xE000, 0xFFFF, 2, 0xE0),
  (0x10000, 0x10FFFF, 3, 0xF0)]

/-- The rows of byte ranges of a range of code points. -/
def byteRows (range : Nat × Nat) : List (List (Nat × Nat)) :=
  byteLengths.flatMap fun (low, high, count, mark) =>
    let (low, high) := (max low range.1, min high range.2)
    if low ≤ high then
      (rows count low high).map fun row =>
        match row with
        | (first, last) :: more => (first + mark, last + mark) :: more
        | [] => []
    else []

/-- How many ranges the rows have if each shares the ranges at its start with the row before. -/
def newRanges : List (Nat × Nat) → List (List (Nat × Nat)) → Nat
  | _, [] => 0
  | previous, row :: rest =>
    row.length - ((previous.zip row).takeWhile fun (a, b) => a == b).length + newRanges row rest

/-- The memory of one state of a machine. -/
def stateSize : Nat := 32

/-- The memory that a character of the set takes: a state for each byte if there is only one, two
states if the set is within ASCII, and else a state for each range of bytes. -/
def CharSet.machineSize (s : CharSet) : Nat :=
  match s.normal.ranges with
  | [] => stateSize
  | [(low, high)] =>
    if low = high then stateSize * (Char.ofNat low).utf8Size
    else if high < 0x80 then 2 * stateSize + 8 else several [(low, high)]
  | ranges =>
    if ranges.all (·.2 < 0x80) then 2 * stateSize + 8 * ranges.length else several ranges
where
  several (ranges : List (Nat × Nat)) : Nat :=
    let rows := ranges.flatMap byteRows
    2 * stateSize + 4 * rows.length + stateSize * newRanges [] rows

/-! ### Pieces -/

namespace Pattern

/-- A pattern with its measures. -/
structure Piece where
  pattern : Pattern
  /-- How deep the parts are nested; a single character has no depth. -/
  depth : Nat
  /-- The memory that a machine for the pattern takes. -/
  size : Nat
  /-- Whether the pattern can be found without covering a character. -/
  canBeEmpty : Bool
  /-- Whether the pattern never covers a character. -/
  isEmpty : Bool
  /-- The set of which the pattern is one character. -/
  set? : Option CharSet

namespace Piece

def nothing : Piece := ⟨.empty, 0, 0, true, true, none⟩

/-- One character of a set, which was written with classes nested so deep. -/
def oneOf (s : CharSet) (depth : Nat) : Piece :=
  ⟨.one s.has, depth, s.machineSize, false, false, some s⟩

def around (test : Option Char → Option Char → Bool) : Piece :=
  ⟨.around test, 0, stateSize, true, true, none⟩

/-- Parts in a row. More than one of them are nested in the row, also those that only set flags and
stand for nothing. -/
def row (parts : List Piece) : Piece :=
  match parts with
  | [] => nothing
  | [p] => p
  | parts => {
      pattern := seqs (parts.map pattern)
      depth := (parts.map depth).foldl max 0 + 1
      size := (parts.map size).foldl (· + ·) 0
      canBeEmpty := parts.all canBeEmpty
      isEmpty := parts.all isEmpty
      set? := none }

/-- A choice between branches. A choice between single characters is one character. -/
def choice (branches : List Piece) : Piece :=
  match branches with
  | [] => nothing
  | [p] => p
  | branches =>
    let depth := (branches.map depth).foldl max 0 + 1
    match branches.mapM set? with
    | some sets => oneOf (.unions sets) depth
    | none => {
        pattern := alts (branches.map pattern)
        depth
        size := (branches.map size).foldl (· + ·) (2 * stateSize + 4 * branches.length)
        canBeEmpty := branches.any canBeEmpty
        isEmpty := branches.all isEmpty
        set? := none }

/-- A group. A group that is kept track of takes two states more. -/
def group (isTracked : Bool) (p : Piece) : Piece :=
  { p with
    depth := p.depth + 1
    size := if isTracked then p.size + 2 * stateSize else p.size
    set? := if isTracked then none else p.set? }

/-- The memory of a fork between two ways. -/
def forkSize : Nat := stateSize + 8

/-- The memory of a repetition of a body of the given size. -/
def repeatedSize (body : Nat) (canBeEmpty : Bool) (least : Nat) (most : Option Nat) : Nat :=
  match most with
  | none =>
    if least = 0 then if canBeEmpty then body + 2 * forkSize + stateSize else body + forkSize
    else least * body + forkSize
  | some most =>
    if most = least then least * body
    else if least = 0 ∧ most = 1 then body + forkSize + stateSize
    else least * body + stateSize + (most - least) * (body + forkSize)

/-- A repetition. What never covers a character is repeated once at most, and an unbounded
repetition of an unbounded one that needs at most one round is a single unbounded repetition. -/
def repeated (p : Piece) (least : Nat) (most : Option Nat) : Piece :=
  let (least, most) :=
    if p.isEmpty then (min least 1, some ((most.getD 1).min 1)) else (least, most)
  let pattern := match p.pattern, most with
    | .rep body 0 none, none => .rep body 0 none
    | .rep body 1 none, none => .rep body least none
    | body, most => .rep body least most
  if most = some 0 then { nothing with depth := p.depth + 1 }
  else if least = 1 ∧ most = some 1 then { p with depth := p.depth + 1 }
  else {
    pattern
    depth := p.depth + 1
    size := repeatedSize p.size p.canBeEmpty least most
    canBeEmpty := p.canBeEmpty || least = 0
    isEmpty := p.isEmpty
    set? := none }

/-! ### Limits -/

def depthLimit : Nat := 250

def sizeLimit : Nat := 10485760

/-- What a machine takes beside the states of its pattern: a loop over the bytes before a find, the
start and the end of the find, and its success. -/
def baseSize : Nat := 208

def isUsable (p : Piece) : Bool := p.depth ≤ depthLimit && p.size + baseSize ≤ sizeLimit

end Piece

end Pattern

end Retint
