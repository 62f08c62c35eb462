import Retint.Shell.Raw

/-!
# Regular expressions of the tools

The regular expressions of the text tools, in both of their dialects. Of the matches that start
first the longest one counts, and of its parts those on the left are as long as they can be.

## Main definitions

* `Regex` — regular expressions
* `Regex.Dialect`, `Regex.read` — reading an expression in a dialect
* `Regex.Subject` — a text that is searched
* `Regex.run` — the places that an expression can lead to from a place
* `Regex.find?` — the first match from a place on

## Implementation notes

From a place, an expression leads to other places, each with what its groups have matched. Of two
ways to the same place only the better one is kept, unless a group is referred to. So the number of
ways is bounded by the length of the text.
-/

namespace Retint.Shell

/-- A set of characters. -/
structure CharGroup where
  isNegated : Bool := false
  ranges : List (Char × Char) := []
  classes : List Text := []
deriving DecidableEq, Repr

namespace CharGroup

def contains (s : CharGroup) (c : Char) : Bool :=
  (s.ranges.any (fun (low, high) => low ≤ c && c ≤ high) ||
    s.classes.any fun name => (Raw.class? name).any (· c)) != s.isNegated

/-- Letters, digits and the underscore. -/
def wordChars (isNegated : Bool) : CharGroup := ⟨isNegated, [('_', '_')], ["alnum".toList]⟩

def space (isNegated : Bool) : CharGroup := ⟨isNegated, [], ["space".toList]⟩

end CharGroup

/-- A place that an expression can ask for without using up a character. -/
inductive Boundary
  | lineStart | lineEnd | textStart | textEnd | wordStart | wordEnd | word | notWord
  /-- There is no word character before the place, or after it. -/
  | clearBefore | clearAfter
deriving DecidableEq, Repr

inductive Regex
  | empty
  | char (c : Char)
  | any
  | set (s : CharGroup)
  | boundary (b : Boundary)
  | seq (a b : Regex)
  | alt (a b : Regex)
  | group (n : Nat) (a : Regex)
  /-- What a group has matched. -/
  | same (n : Nat)
  | rep (min : Nat) (max : Option Nat) (a : Regex)
deriving DecidableEq, Repr

namespace Regex

/-! ### Reading -/

/-- The dialects: in the basic one, parentheses and braces have a meaning after a backslash, in
the extended one without it. In the extended dialect of a language with strings, escapes in sets
have a meaning too. -/
inductive Dialect
  | basic | extended | script
deriving DecidableEq, Repr

/-- What is left of an expression, and how many groups have been opened. -/
structure Source where
  rest : Text
  groups : Nat := 0
  depth : Nat := 0
  /-- Whether the expression is not empty. -/
  hasMore : Bool := false

abbrev Reading := StateT Source (Except String)

namespace Reading

def fail {α : Type} (message : String) : Reading α := throw message

def rest : Reading Text := do return (← get).rest

def skip (n : Nat) : Reading Unit := modify fun s => { s with rest := s.rest.drop n }

end Reading

open Reading

/-- The character that an escape stands for in every dialect. -/
def control? : Char → Option Char
  | 'n' => some '\n'
  | 't' => some '\t'
  | 'f' => some '\x0c'
  | 'v' => some '\x0b'
  | 'a' => some '\x07'
  | 'r' => some '\r'
  | _ => none

/-- The character at the start of a text in a set, and how many characters it takes. -/
def setChar (escapes : Bool) (t : Text) : Char × Nat :=
  match t with
  | '[' :: '.' :: c :: '.' :: ']' :: _ => (c, 5)
  | '[' :: '=' :: c :: '=' :: ']' :: _ => (c, 5)
  | '\\' :: c :: _ =>
    if escapes then ((control? c).getD c, 2)
    else if c = 'n' then ('\n', 2)
    else ('\\', 1)
  | c :: _ => (c, 1)
  | [] => (' ', 0)

/-- The members of a set up to the bracket that closes it. -/
def members (escapes : Bool) : Nat → Bool → CharGroup → Reading CharGroup
  | 0, _, _ => fail "Unmatched [, [^, [:, [., or [="
  | fuel + 1, isFirst, s => do
    match ← rest with
    | [] => fail "Unmatched [, [^, [:, [., or [="
    | ']' :: _ =>
      if isFirst then
        skip 1
        members escapes fuel false { s with ranges := (']', ']') :: s.ranges }
      else
        skip 1
        return s
    | '[' :: ':' :: t => do
      let name := t.takeWhile (· != ':')
      if !Text.startsWith ":]".toList (t.drop name.length) then
        fail "Unmatched [, [^, [:, [., or [="
      else if (Raw.class? name).isNone then fail "Invalid character class name"
      else
        skip (name.length + 4)
        members escapes fuel false { s with classes := name :: s.classes }
    | t => do
      let (low, n) := setChar escapes t
      match t.drop n with
      | '-' :: c :: more =>
        if c = ']' then
          skip n
          members escapes fuel false { s with ranges := (low, low) :: s.ranges }
        else
          let (high, k) := setChar escapes (c :: more)
          if high < low then fail "Invalid range end"
          else
            skip (n + 1 + k)
            members escapes fuel false { s with ranges := (low, high) :: s.ranges }
      | _ => do
        skip n
        members escapes fuel false { s with ranges := (low, low) :: s.ranges }

/-- A set, from after its opening bracket on. -/
def charSet (escapes : Bool) (fuel : Nat) : Reading Regex := do
  let isNegated := (← rest).head? = some '^'
  if isNegated then skip 1
  let s ← members escapes fuel true {}
  return .set { s with isNegated := isNegated }

/-- How often something is repeated, if that is said here: the bounds and the number of
characters. -/
def bounds? (d : Dialect) (t : Text) : Option (Nat × Option Nat × Nat) :=
  let interval (lead : Nat) (t : Text) (tail : Text) : Option (Nat × Option Nat × Nat) :=
    let low := t.takeWhile Char.isDigit
    let after := t.drop low.length
    match after with
    | ',' :: more =>
      let high := more.takeWhile Char.isDigit
      if Text.startsWith tail (more.drop high.length) then
        some (Text.ofDecimal low, if high.isEmpty then none else some (Text.ofDecimal high),
          lead + low.length + 1 + high.length + tail.length)
      else none
    | after =>
      if !low.isEmpty && Text.startsWith tail after then
        some (Text.ofDecimal low, some (Text.ofDecimal low), lead + low.length + tail.length)
      else none
  match d, t with
  | _, '*' :: _ => some (0, none, 1)
  | .basic, '\\' :: '+' :: _ => some (1, none, 2)
  | .basic, '\\' :: '?' :: _ => some (0, some 1, 2)
  | .basic, '\\' :: '\x7b' :: t => interval 2 t "\\\x7d".toList
  | .basic, _ => none
  | _, '+' :: _ => some (1, none, 1)
  | _, '?' :: _ => some (0, some 1, 1)
  | _, '\x7b' :: t => interval 1 t ['\x7d']
  | _, _ => none

/-- Something with the repetitions that follow it. -/
def repeated (d : Dialect) : Nat → Regex → Reading Regex
  | 0, r => return r
  | fuel + 1, r => do
    match bounds? d (← rest) with
    | some (low, high, n) => do
      skip n
      if high.any (· < low) then fail "Invalid content of \\\x7b\\\x7d"
      else repeated d fuel (.rep low high r)
    | none => return r

/-- Whether an alternative or a group ends here. -/
def endsBranch (d : Dialect) (depth : Nat) (t : Text) : Bool :=
  match d, t with
  | _, [] => true
  | .basic, '\\' :: '|' :: _ => true
  | .basic, '\\' :: ')' :: _ => true
  | .basic, _ => false
  | _, '|' :: _ => true
  | _, ')' :: _ => depth != 0 || d == .extended
  | _, _ => false

/-- What a backslash stands for together with the character after it, if that is no group. -/
def escapedChar (d : Dialect) (c : Char) : Reading Regex := do
  let word := !(d matches .script)
  match c with
  | 'w' => return if word then .set (.wordChars false) else .char c
  | 'W' => return if word then .set (.wordChars true) else .char c
  | 's' => return if word then .set (.space false) else .char c
  | 'S' => return if word then .set (.space true) else .char c
  | '<' => return if word then .boundary .wordStart else .char c
  | '>' => return if word then .boundary .wordEnd else .char c
  | 'b' => return if word then .boundary .word else .char '\x08'
  | 'B' => return if word then .boundary .notWord else .char c
  | '\x60' => return if word then .boundary .textStart else .char c
  | '\'' => return if word then .boundary .textEnd else .char c
  | c =>
    if '1' ≤ c ∧ c ≤ '9' ∧ word then
      let n := c.toNat - '0'.toNat
      if n ≤ (← get).groups then return .same n else fail "Invalid back reference"
    else return .char ((control? c).getD c)

mutual

/-- Alternatives. -/
def alternatives (d : Dialect) : Nat → Reading Regex
  | 0 => fail "Regular expression too big"
  | fuel + 1 => do
    let r ← branch d fuel true
    match d, ← rest with
    | .basic, '\\' :: '|' :: _ => do
      skip 2
      return .alt r (← alternatives d fuel)
    | .basic, _ => return r
    | _, '|' :: _ => do
      skip 1
      return .alt r (← alternatives d fuel)
    | _, _ => return r

/-- Parts one after the other. -/
def branch (d : Dialect) : Nat → Bool → Reading Regex
  | 0, _ => fail "Regular expression too big"
  | fuel + 1, isFirst => do
    let s ← get
    if endsBranch d s.depth s.rest then
      let isMissing := isFirst && s.hasMore && !(s.rest.isEmpty && s.depth != 0)
      if d == .script && isMissing then fail "missing operand" else return .empty
    else
      let r ← atom d fuel isFirst
      let isAnchor := isFirst && r == .boundary .lineStart && d == .basic
      let r ← if isAnchor then pure r else repeated d fuel r
      let more ← branch d fuel isAnchor
      return if more = .empty then r else .seq r more

/-- One part, without its repetitions. -/
def atom (d : Dialect) : Nat → Bool → Reading Regex
  | 0, _ => fail "Regular expression too big"
  | fuel + 1, isFirst => do
    match d, ← rest with
    | _, '.' :: _ => do
      skip 1
      return .any
    | d, '[' :: _ => do
      skip 1
      charSet (d == .script) fuel
    | .basic, '*' :: _ => do
      skip 1
      return .char '*'
    | .basic, '^' :: _ => do
      skip 1
      return if isFirst then .boundary .lineStart else .char '^'
    | .basic, '$' :: t => do
      skip 1
      return if t.isEmpty || Text.startsWith "\\)".toList t || Text.startsWith "\\|".toList t
        then .boundary .lineEnd else .char '$'
    | .basic, '\\' :: '(' :: _ => do
      skip 2
      groupRest d fuel
    | .basic, '\\' :: '\x7b' :: _ => do
      if isFirst then fail "Invalid preceding regular expression"
      else fail "Invalid content of \\\x7b\\\x7d"
    | _, '\\' :: c :: _ => do
      skip 2
      escapedChar d c
    | .script, ['\\'] => do
      skip 1
      return .char '\\'
    | _, ['\\'] => fail "Trailing backslash"
    | .basic, c :: _ => do
      skip 1
      return .char c
    | _, '^' :: _ => do
      skip 1
      return .boundary .lineStart
    | _, '$' :: _ => do
      skip 1
      return .boundary .lineEnd
    | _, '(' :: _ => do
      skip 1
      groupRest d fuel
    | d, c :: _ => do
      if d == .script && "*+?".toList.contains c then fail "missing operand"
      skip 1
      return .char c
    | _, [] => return .empty

/-- A group, from after its opening parenthesis on. -/
def groupRest (d : Dialect) : Nat → Reading Regex
  | 0 => fail "Regular expression too big"
  | fuel + 1 => do
    let n := (← get).groups + 1
    modify fun s => { s with groups := n, depth := s.depth + 1 }
    let r ← alternatives d fuel
    match d, ← rest with
    | .basic, '\\' :: ')' :: _ => skip 2
    | .basic, _ => fail "Unmatched ( or \\("
    | _, ')' :: _ => skip 1
    | _, _ => fail "Unmatched ( or \\("
    modify fun s => { s with depth := s.depth - 1 }
    return .group n r

end

/-- The expression that a text is in a dialect, and the number of its groups. -/
def read (d : Dialect) (t : Text) : Except String (Regex × Nat) := do
  let (r, s) ← (alternatives d (4 * t.length + 10)).run { rest := t, hasMore := !t.isEmpty }
  if s.rest.isEmpty then return (r, s.groups) else throw "Unmatched ) or \\)"

/-! ### Matching -/

/-- A text that is searched. -/
structure Subject where
  chars : Array Char
  ignoresCase : Bool := false
  /-- Whether every line has a start and an end of its own. -/
  hasLines : Bool := false

/-- A place in a text, and what the groups have matched so far. -/
structure Way where
  place : Nat
  groups : List (Nat × Nat × Nat) := []
deriving DecidableEq, Repr

/-- Whether an expression refers to a group. -/
def refers : Regex → Bool
  | seq a b | alt a b => refers a || refers b
  | group _ a | rep _ _ a => refers a
  | same _ => true
  | _ => false

namespace Subject

def isWord (s : Subject) (i : Nat) : Bool :=
  match s.chars[i]? with
  | some c => c.isAlphanum || c == '_'
  | none => false

/-- Whether there is a word character before a place. -/
def isWordBefore (s : Subject) : Nat → Bool
  | 0 => false
  | i + 1 => s.isWord i

def isAt (s : Subject) (i : Nat) : Boundary → Bool
  | .textStart => i == 0
  | .textEnd => i == s.chars.size
  | .lineStart => i == 0 || (s.hasLines && s.chars[i - 1]? == some '\n')
  | .lineEnd => i == s.chars.size || (s.hasLines && s.chars[i]? == some '\n')
  | .wordStart => !s.isWordBefore i && s.isWord i
  | .wordEnd => s.isWordBefore i && !s.isWord i
  | .word => s.isWordBefore i != s.isWord i
  | .notWord => s.isWordBefore i == s.isWord i
  | .clearBefore => !s.isWordBefore i
  | .clearAfter => !s.isWord i

/-- Whether two characters are the same here. -/
def agree (s : Subject) (c d : Char) : Bool :=
  c == d || (s.ignoresCase && c.toLower == d.toLower)

/-- Whether an expression that is a single character matches one. -/
def isChar (s : Subject) : Regex → Char → Bool
  | .char c, d => s.agree c d
  | .any, _ => true
  | .set g, d =>
    g.contains d || (s.ignoresCase && (g.contains d.toLower || g.contains d.toUpper))
  | _, _ => false

end Subject

/-- Whether an expression always uses up exactly one character. -/
def isSingle : Regex → Bool
  | char _ | any | set _ => true
  | _ => false

/-- The ways without those that are worse than another one to the same place. The farthest one
comes first. -/
def best (keepAll : Bool) (ways : List Way) : List Way :=
  let sorted := ways.mergeSort fun a b => b.place ≤ a.place
  if keepAll then sorted.eraseDups
  else
    sorted.foldr (fun w kept =>
      match kept with
      | v :: more => if v.place = w.place then w :: more else w :: kept
      | [] => [w]) []

/-- How many characters from a place on an expression for single characters matches, at most so
many. -/
def runLength (s : Subject) (r : Regex) : Nat → Nat → Nat
  | 0, _ => 0
  | n + 1, i =>
    match s.chars[i]? with
    | some c => if s.isChar r c then runLength s r n (i + 1) + 1 else 0
    | none => 0

/-- Repeats a step so many times. -/
def times (keepAll : Bool) (step : Way → List Way) : Nat → List Way → List Way
  | 0, ways => ways
  | n + 1, ways => times keepAll step n (best keepAll (ways.flatMap step))

/-- Repeats a step that gets on, any number of times up to a limit. -/
def closure (keepAll : Bool) (step : Way → List Way) : Nat → List Way → List Way → List Way
  | 0, _, found => found
  | n + 1, frontier, found =>
    let next := best keepAll <| frontier.flatMap fun w =>
      (step w).filter fun v => w.place < v.place
    let new := next.filter fun v => keepAll || !found.any fun w => w.place == v.place
    if new.isEmpty then found else closure keepAll step n new (found ++ new)

/-- The ways on from a way, the farthest one first. -/
def run (s : Subject) (keepAll : Bool) : Regex → Way → List Way
  | empty, w => [w]
  | boundary b, w => if s.isAt w.place b then [w] else []
  | seq a b, w => best keepAll ((run s keepAll a w).flatMap (run s keepAll b))
  | alt a b, w => best keepAll (run s keepAll a w ++ run s keepAll b w)
  | group n a, w =>
    (run s keepAll a w).map fun v =>
      { v with groups := (n, w.place, v.place) :: v.groups.filter (·.1 != n) }
  | same n, w =>
    match w.groups.lookup n with
    | some (start, stop) =>
      let matched := (s.chars.extract start stop).toList
      let here := (s.chars.extract w.place (w.place + (stop - start))).toList
      if matched.length = here.length ∧ (matched.zip here).all (fun (c, d) => s.agree c d) then
        [{ w with place := w.place + (stop - start) }]
      else []
    | none => []
  | rep low high a, w =>
    if isSingle a then
      let n := runLength s a (high.getD (s.chars.size - w.place)) w.place
      if n < low then []
      else ((List.range (n + 1 - low)).map fun i => { w with place := w.place + n - i })
    else
      let step := run s keepAll a
      let start := times keepAll step low [w]
      let more := match high with
        | some high => high - low
        | none => s.chars.size + 1
      best keepAll (closure keepAll step more start start)
  | r, w =>
    match s.chars[w.place]? with
    | some c => if s.isChar r c then [{ w with place := w.place + 1 }] else []
    | none => []

/-- A match: where it starts and ends, and what its groups have matched. -/
structure Match where
  start : Nat
  stop : Nat
  groups : List (Nat × Nat × Nat)
deriving DecidableEq, Repr

/-- The first match that starts at one of so many places from a place on. -/
def findFrom (s : Subject) (r : Regex) : Nat → Nat → Option Match
  | 0, _ => none
  | n + 1, i =>
    match run s r.refers r { place := i } with
    | w :: _ => some ⟨i, w.place, w.groups⟩
    | [] => findFrom s r n (i + 1)

/-- The first match that starts at a place or after it. -/
def find? (s : Subject) (r : Regex) (start : Nat) : Option Match :=
  findFrom s r (s.chars.size + 1 - start) start

/-- The characters between two places. -/
def Subject.slice (s : Subject) (start stop : Nat) : Text := (s.chars.extract start stop).toList

/-- What a group has matched. The whole match is group number zero. -/
def Match.text (s : Subject) (m : Match) (n : Nat) : Text :=
  if n = 0 then s.slice m.start m.stop
  else
    match m.groups.lookup n with
    | some (start, stop) => s.slice start stop
    | none => []

/-- The matches in a text that do not overlap. An empty match right after another match does not
count. -/
def findAll (s : Subject) (r : Regex) : Nat → Nat → Option Nat → List Match
  | 0, _, _ => []
  | fuel + 1, i, last =>
    match find? s r i with
    | none => []
    | some m =>
      if m.stop = m.start then
        if last = some m.start then findAll s r fuel (i + 1) none
        else m :: findAll s r fuel (m.stop + 1) none
      else m :: findAll s r fuel m.stop (some m.stop)

/-- All matches in a text that do not overlap. -/
def matchesIn (s : Subject) (r : Regex) : List Match := findAll s r (s.chars.size + 2) 0 none

end Regex

end Retint.Shell
