import Retint.Format.Yaml.Token

/-!
# Scalars of YAML

How each kind of scalar is read. A scalar may go over several lines; then a single line break counts
as a space, except in a literal one, and further ones stay.

## Main definitions

* `Yaml.plainScalar` — text without quotes
* `Yaml.quotedScalar` — text in single or double quotes
* `Yaml.blockScalar` — the lines after a `|` or `>`
-/

namespace Retint.Yaml

/-! ### Scalars over several lines -/

/-- The white space between two parts of a scalar: within a line, or the line breaks of it. -/
inductive Spacing
  | within (gaps : Text)
  | breaks (first : Text) (more : Text)

/-- What the white space counts for: a single line break is a space, further ones stay. -/
def Spacing.folded : Spacing → Text
  | within gaps => gaps
  | breaks ['\n'] [] => [' ']
  | breaks ['\n'] more => more
  | breaks first more => first ++ more

/-- Takes gaps and line breaks. In lines that follow, a tab before the column `indent` is wrong. -/
def spacing (indent : Nat) : Nat → Spacing → Place → Option (Spacing × Place)
  | 0, s, p => some (s, p)
  | fuel + 1, s, p =>
    match p.rest with
    | [] => some (s, p)
    | c :: _ =>
      if isGap c then
        match s with
        | .within gaps => spacing indent fuel (.within (gaps ++ [c])) p.next
        | s => if c = '\t' ∧ p.column < indent then none else spacing indent fuel s p.next
      else if isBreak c then
        let (b, p) := p.nextLine
        match s with
        | .within _ => spacing indent fuel (.breaks b []) p
        | .breaks first more => spacing indent fuel (.breaks first (more ++ b)) p
      else some (s, p)

def Spacing.isBreaks : Spacing → Bool
  | within _ => false
  | breaks .. => true

/-- The characters of a plain scalar up to a gap, a line break or what ends the scalar; `none` for
a colon before a bracket or comma in a flow collection. -/
def plainWord (inFlow : Bool) : Nat → Place → Option (Text × Place)
  | 0, p => some ([], p)
  | fuel + 1, p =>
    match p.rest with
    | [] => some ([], p)
    | c :: rest =>
      if isGap c || isBreak c then some ([], p)
      else if inFlow && c == ':' && rest.head?.any (",?[]\x7b\x7d".toList.contains ·) then none
      else if (c == ':' && atBlank rest) || (inFlow && ",[]\x7b\x7d".toList.contains c) then
        some ([], p)
      else (plainWord inFlow fuel p.next).map fun (w, q) => (c :: w, q)

/-- A plain scalar, the place after it, and whether it ended with a line break. `indent` is the
column that its lines must reach. -/
def plainScalar (inFlow : Bool) (indent : Nat) :
    Nat → Place → Option (Text × Place × Bool)
  | 0, p => some ([], p, false)
  | fuel + 1, p =>
    if p.atSeparator || p.rest.head? == some '#' then some ([], p, p.column == 0)
    else do
      let (w, p) ← plainWord inFlow fuel p
      if p.rest.head?.all fun c => !(isGap c || isBreak c) then some (w, p, false)
      else
        let (s, q) ← spacing indent fuel (.within []) p
        if !inFlow && q.column < indent then some (w, q, s.isBreaks)
        else
          let (more, r, crossed) ← plainScalar inFlow indent fuel q
          if more.isEmpty then some (w, r, crossed || s.isBreaks)
          else some (w ++ s.folded ++ more, r, crossed)

/-- The character that a letter after a backslash stands for in a double-quoted scalar. -/
def escape? (c : Char) : Option Char :=
  match c with
  | '0' => some (Char.ofNat 0)
  | 'a' => some '\x07'
  | 'b' => some '\x08'
  | 't' | '\t' => some '\t'
  | 'n' => some '\n'
  | 'v' => some '\x0B'
  | 'f' => some '\x0C'
  | 'r' => some '\r'
  | 'e' => some '\x1B'
  | ' ' | '"' | '/' | '\\' => some c
  | 'N' => some '\x85'
  | '_' => some '\u00A0'
  | 'L' => some '\u2028'
  | 'P' => some '\u2029'
  | _ => none

/-- The number of digits after a letter that gives a code point. -/
def escapeSize? (c : Char) : Option Nat :=
  match c with
  | 'x' => some 2
  | 'u' => some 4
  | 'U' => some 8
  | _ => none

/-- The characters of a quoted scalar up to its end, a gap or a line break. The flag tells that a
line break has been taken by a backslash. -/
def quotedWord (double : Bool) : Nat → Place → Option (Text × Place × Bool)
  | 0, _ => none
  | fuel + 1, p =>
    match p.rest with
    | [] => some ([], p, false)
    | '\'' :: '\'' :: _ =>
      if double then
        (quotedWord double fuel p.next).map fun (w, q, b) => ('\'' :: w, q, b)
      else (quotedWord double fuel (p.skip 2)).map fun (w, q, b) => ('\'' :: w, q, b)
    | c :: rest =>
      if isGap c || isBreak c || c == (if double then '"' else '\'') then some ([], p, false)
      else if double && c == '\\' then
        match rest with
        | [] => none
        | d :: digits =>
          if isBreak d then some ([], p.next.nextLine.2, true)
          else
            match escapeSize? d with
            | some size => do
              let values ← (digits.take size).mapM Text.hexDigit?
              if values.length < size then none
              else
                let e ← Text.charOf? (values.foldl (fun n v => 16 * n + v) 0)
                let (w, q, b) ← quotedWord double fuel (p.skip (2 + size))
                some (e :: w, q, b)
            | none => do
              let e ← escape? d
              let (w, q, b) ← quotedWord double fuel (p.skip 2)
              some (e :: w, q, b)
      else (quotedWord double fuel p.next).map fun (w, q, b) => (c :: w, q, b)

/-- A quoted scalar after its opening quote, and the place after its closing one. -/
def quotedScalar (double : Bool) : Nat → Place → Option (Text × Place)
  | 0, _ => none
  | fuel + 1, p =>
    if p.atSeparator then none
    else do
      let (w, p, taken) ← quotedWord double fuel p
      match p.rest with
      | [] => none
      | c :: _ =>
        if c == (if double then '"' else '\'') then some (w, p.next)
        else
          let (s, p) ← spacing 0 fuel (if taken then .breaks [] [] else .within []) p
          let (more, p) ← quotedScalar double fuel p
          some (w ++ s.folded ++ more, p)

/-! ### Block scalars -/

/-- What becomes of the line breaks at the end of a block scalar. -/
inductive Chomping
  | clip | strip | keep
deriving DecidableEq

/-- The signs after the `|` or `>`: chomping and indentation in either order. -/
def blockHeader (p : Place) : Option (Chomping × Option Nat × Place) :=
  let chomp? (c : Char) : Option Chomping :=
    if c = '+' then some .keep else if c = '-' then some .strip else none
  match p.rest with
  | c :: d :: _ =>
    match chomp? c with
    | some chomping =>
      if d = '0' then none
      else if d.isDigit then some (chomping, some (d.toNat - 48), p.skip 2)
      else some (chomping, none, p.next)
    | none =>
      if c = '0' then none
      else if c.isDigit then
        match chomp? d with
        | some chomping => some (chomping, some (c.toNat - 48), p.skip 2)
        | none => some (.clip, some (c.toNat - 48), p.next)
      else some (.clip, none, p)
  | [c] =>
    match chomp? c with
    | some chomping => some (chomping, none, p.next)
    | none =>
      if c = '0' then none
      else if c.isDigit then some (.clip, some (c.toNat - 48), p.next)
      else some (.clip, none, p)
  | [] => some (.clip, none, p)

/-- Takes empty lines and the indentation of the next line. Without an indentation that is known,
the furthest one of these lines is told. -/
def blockBreaks (indent : Option Nat) : Nat → Nat → Text → Place → Option (Text × Nat × Place)
  | 0, furthest, breaks, p => some (breaks, furthest, p)
  | fuel + 1, furthest, breaks, p =>
    let p := match indent with
      | some n => p.skip ((p.rest.takeWhile (· == ' ')).length.min (n - p.column))
      | none => p.skipWhile (· == ' ')
    let furthest := furthest.max p.column
    match p.rest with
    | [] => some (breaks, furthest, p)
    | c :: _ =>
      if c = '\t' ∧ indent.all (p.column < ·) then none
      else if isBreak c then
        let (b, p) := p.nextLine
        blockBreaks indent fuel furthest (breaks ++ b) p
      else some (breaks, furthest, p)

/-- The lines of a block scalar from a line at the column `indent` on. `pending` is the line break
before, `breaks` the empty lines after it, and `gapped` tells whether the line before began with a
gap. The answer ends with the line breaks that nothing follows. -/
def blockLines (literal : Bool) (indent : Nat) :
    Nat → Text → Text → Bool → Place → Option (Text × Text × Text × Place)
  | 0, pending, breaks, _, p => some ([], pending, breaks, p)
  | fuel + 1, pending, breaks, gapped, p =>
    match p.rest with
    | [] => some ([], pending, breaks, p)
    | c :: _ =>
      if p.column ≠ indent then some ([], pending, breaks, p)
      else do
        let lead :=
          if !literal && pending == ['\n'] && !gapped && !isGap c then
            if breaks.isEmpty then [' '] else breaks
          else pending ++ breaks
        let line := p.rest.takeWhile (! isBreak ·)
        let (pending, q) := (p.skip line.length).nextLine
        let (breaks, _, q) ← blockBreaks (some indent) fuel 0 [] q
        let (more, pending, breaks, q) ← blockLines literal indent fuel pending breaks (isGap c) q
        some (lead ++ line ++ more, pending, breaks, q)

/-- A block scalar after its sign. `parent` is the column of the collection that it is in, if it is
in one. -/
def blockScalar (literal : Bool) (parent : Option Nat) (fuel : Nat) (p : Place) :
    Option (Text × Place) := do
  let (chomping, increment, p) ← blockHeader p
  let p := p.skipWhile isGap
  let p := if p.rest.head? = some '#' then p.skipWhile (! isBreak ·) else p
  if p.rest.head?.any (! isBreak ·) then none
  else
    let (_, p) := p.nextLine
    let given := increment.map fun n => (parent.getD 0) + n
    let (breaks, furthest, p) ← blockBreaks given fuel 0 [] p
    let least := match parent with
      | some n => n + 1
      | none => 1
    let indent := given.getD (furthest.max least)
    let (t, pending, breaks, p) ← blockLines literal indent fuel [] breaks false p
    some (match chomping with
      | .strip => t
      | .clip => t ++ pending
      | .keep => t ++ pending ++ breaks, p)

end Retint.Yaml
