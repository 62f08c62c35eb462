import Retint.Shell.Number
import Retint.Shell.Tool.Options

/-!
# Sorting lines

Lines are ordered by keys, which are parts of them, and by their bytes where the keys do not tell
them apart.

## Main definitions

* `Tool.SortKey`, `SortKey.read?` — a key as it is written
* `SortKey.part` — the part of a line that a key looks at
* `SortKey.compare` — the order of two lines by a key
* `Tool.sort`

## Main results

* `Tool.sorted_perm` — sorting only rearranges
-/

namespace Retint.Shell.Tool

variable {m : Type → Type} [Monad m]

/-- A place in a line: a field and a character in it, counted from one. -/
structure FieldPlace where
  field : Nat
  char : Nat
  options : Text := []
deriving DecidableEq, Repr

/-- A part of a line by which lines are ordered, and how. -/
structure SortKey where
  start : FieldPlace := ⟨1, 1, []⟩
  stop : Option FieldPlace := none
  options : Text := []
deriving DecidableEq, Repr

namespace SortKey

/-- A place as it is written. -/
def place? (t : Text) : Option FieldPlace :=
  let digits := t.takeWhile Char.isDigit
  if digits.isEmpty then none
  else
    let rest := t.drop digits.length
    match rest with
    | '.' :: more =>
      let chars := more.takeWhile Char.isDigit
      if chars.isEmpty then none
      else some ⟨Text.ofDecimal digits, Text.ofDecimal chars, more.drop chars.length⟩
    | options => some ⟨Text.ofDecimal digits, 0, options⟩

/-- A key as it is written; without options of its own it has those of the whole. -/
def read? (whole t : Text) : Option SortKey := do
  let (start, stop) := match Text.cut? ',' t with
    | some (start, stop) => (start, some stop)
    | none => (t, none)
  let start ← place? start
  let stop ← match stop with
    | some stop => (place? stop).map some
    | none => some none
  let own := start.options ++ ((stop.map FieldPlace.options).getD [])
  if start.field = 0 ∨ stop.any (·.field == 0) ∨ own.any (! "bdfgiMhnRrV".toList.contains ·) then
    none
  else some ⟨{ start with char := max 1 start.char }, stop, if own.isEmpty then whole else own⟩

/-- Skips fields of a line. Without a delimiter a field begins with the blanks before it. -/
def skip (delimiter : Option Char) : Nat → Text → Text
  | 0, t => t
  | n + 1, t =>
    match delimiter with
    | some c => skip delimiter n ((t.dropWhile (· != c)).drop 1)
    | none => skip delimiter n ((t.dropWhile Raw.isBlank).dropWhile (! Raw.isBlank ·))

/-- The number of characters of the field at the start of a text. -/
def fieldLength (delimiter : Option Char) (t : Text) : Nat :=
  match delimiter with
  | some c => (t.takeWhile (· != c)).length
  | none =>
    let blanks := (t.takeWhile Raw.isBlank).length
    blanks + ((t.drop blanks).takeWhile (! Raw.isBlank ·)).length

/-- The characters of a line before a place. -/
def offset (delimiter : Option Char) (skipBlanks : Bool) (p : FieldPlace) (line : Text) : Nat :=
  let rest := skip delimiter (p.field - 1) line
  let blanks := if skipBlanks then (rest.takeWhile Raw.isBlank).length else 0
  line.length - rest.length + blanks + (p.char - 1)

/-- The part of a line that the key looks at. -/
def part (delimiter : Option Char) (k : SortKey) (line : Text) : Text :=
  let start := offset delimiter ('b' ∈ k.options || 'b' ∈ k.start.options) k.start line
  match k.stop with
  | none => line.drop start
  | some p =>
    let stop :=
      if p.char = 0 then
        let rest := skip delimiter (p.field - 1) line
        line.length - rest.length + fieldLength delimiter rest
      else offset delimiter ('b' ∈ p.options) { p with char := p.char + 1 } line
    (line.take stop).drop start

/-- The number that a text starts with, as a whole number and how many of its digits are places. -/
def number (t : Text) : Int × Nat :=
  let t := t.dropWhile Raw.isBlank
  let (sign, t) : Int × Text := match t with
    | '-' :: rest => (-1, rest)
    | t => (1, t)
  let whole := t.takeWhile Char.isDigit
  let places := match t.drop whole.length with
    | '.' :: rest => rest.takeWhile Char.isDigit
    | _ => []
  (sign * Text.ofDecimal (whole ++ places), places.length)

/-- The power of 1024 that a suffix stands for. -/
def unitRank (t : Text) : Nat :=
  let t := t.dropWhile Raw.isBlank
  let t := match t with
    | '-' :: rest => rest
    | t => t
  match (t.dropWhile fun c => c.isDigit || c == '.').head? with
  | some 'K' | some 'k' => 1
  | some 'M' => 2
  | some 'G' => 3
  | some 'T' => 4
  | some 'P' => 5
  | some 'E' => 6
  | _ => 0

def compareNumbers (a b : Int × Nat) : Ordering :=
  compare (a.1 * Number.tenTo b.2) (b.1 * Number.tenTo a.2)

/-- The number of the month whose name a text starts with; zero if it is none. -/
def month (t : Text) : Nat :=
  let name := ((t.dropWhile Raw.isBlank).take 3).map Char.toUpper
  let months := ["JAN", "FEB", "MAR", "APR", "MAY", "JUN", "JUL", "AUG", "SEP", "OCT", "NOV", "DEC"]
  ((months.findIdx? (·.toList = name)).map (· + 1)).getD 0

def compareTexts (a b : Text) : Ordering :=
  if a = b then .eq else if a.le b then .lt else .gt

/-- The order of two parts. -/
def compareParts (k : SortKey) (a b : Text) : Ordering :=
  if 'n' ∈ k.options then compareNumbers (number a) (number b)
  else if 'g' ∈ k.options then
    let x := Number.read a
    let y := Number.read b
    if x < y then .lt else if y < x then .gt else .eq
  else if 'h' ∈ k.options then
    let sign (n : Int × Nat) : Int := if n.1 < 0 then -1 else if n.1 = 0 then 0 else 1
    let x := number a
    let y := number b
    (compare (sign x * unitRank a) (sign y * unitRank b)).then (compareNumbers x y)
  else if 'M' ∈ k.options then compare (month a) (month b)
  else
    let clean (t : Text) : Text :=
      let t := if 'd' ∈ k.options then
        List.filter (fun c => c.isAlphanum || Raw.isBlank c) t else t
      let t := if 'i' ∈ k.options then List.filter (fun c => ' ' ≤ c && c ≤ '~') t else t
      if 'f' ∈ k.options then t.map Char.toUpper else t
    compareTexts (clean a) (clean b)

/-- The order of two lines by the key. -/
def compare (delimiter : Option Char) (k : SortKey) (a b : Text) : Ordering :=
  let o := compareParts k (part delimiter k a) (part delimiter k b)
  if 'r' ∈ k.options then o.swap else o

end SortKey

/-- The order of two lines by several keys. -/
def compareByKeys (delimiter : Option Char) (keys : List SortKey) (a b : Text) : Ordering :=
  keys.foldl (fun o k => o.then (k.compare delimiter a b)) .eq

/-- Lines in order. Those that the keys do not tell apart are ordered by their bytes, unless the
order is to be stable. -/
def sorted (delimiter : Option Char) (keys : List SortKey) (isStable reversed : Bool)
    (lines : List Text) : List Text :=
  lines.mergeSort fun a b =>
    match compareByKeys delimiter keys a b with
    | .lt => true
    | .gt => false
    | .eq => isStable || (if reversed then b.le a else a.le b)

theorem sorted_perm (delimiter : Option Char) (keys : List SortKey) (isStable reversed : Bool)
    (lines : List Text) : (sorted delimiter keys isStable reversed lines).Perm lines :=
  List.mergeSort_perm lines _

/-- The first of neighbouring lines that are the same for some order. -/
def dropEqual (same : Text → Text → Bool) : List Text → List Text
  | a :: b :: rest =>
    if same a b then dropEqual same (a :: rest) else a :: dropEqual same (b :: rest)
  | lines => lines
termination_by lines => lines.length

/-- The first line that is out of order, with its number. -/
def firstDisorder (inOrder : Text → Text → Bool) : Nat → List Text → Option (Nat × Text)
  | n, a :: b :: rest =>
    if inOrder a b then firstDisorder inOrder (n + 1) (b :: rest) else some (n + 1, b)
  | _, _ => none

def sort : Tool m := withOptions "sort" (.of "bdfgiMhnRrVcCmsuz" "kotST" [("key", 'k'),
    ("field-separator", 't'), ("numeric-sort", 'n'), ("reverse", 'r'), ("unique", 'u'),
    ("output", 'o'), ("stable", 's'), ("ignore-case", 'f'), ("check", 'c'),
    ("ignore-leading-blanks", 'b'), ("general-numeric-sort", 'g'), ("dictionary-order", 'd'),
    ("human-numeric-sort", 'h'), ("month-sort", 'M'), ("version-sort", 'V'), ("merge", 'm')]) 2
    fun a => do
  let whole := (a.options.map Prod.fst).filter ("bdfgiMhnrV".toList.contains ·)
  match (a.values 'k').mapM (SortKey.read? whole) with
  | none => do
    let bad := ((a.values 'k').find? fun k => (SortKey.read? whole k).isNone).getD []
    Run.say "sort".toList
      ("-: invalid field specification '".toList ++ bad ++ ['\''])
    return 2
  | some keys =>
    let keys := if keys.isEmpty then [{ options := whole }] else keys
    let delimiter := (a.value? 't').bind List.head?
    match ← (if a.operands.isEmpty then [['-']] else a.operands).foldlM
        (fun (found : Except Unit Text) operand => do
          match found with
          | .error () => return found
          | .ok all =>
            match ← Run.readOperand operand with
            | .ok t =>
              let isEnded := t.isEmpty || t.getLast? == some '\n'
              return .ok (all ++ t ++ if isEnded then [] else ['\n'])
            | .error fault => do
              Run.say "sort".toList
                ("cannot read: ".toList ++ operand ++ ": ".toList ++ reason fault)
              return .error ()) (.ok []) with
    | .error () => return 2
    | .ok t =>
      let lines := Raw.bareLines t
      let isStable := a.has 's' || a.has 'u'
      let inOrder (x y : Text) : Bool :=
        match compareByKeys delimiter keys x y with
        | .lt => true
        | .gt => false
        | .eq => !a.has 'u' && (isStable || (if a.has 'r' then y.le x else x.le y))
      if a.has 'c' || a.has 'C' then
        match firstDisorder inOrder 1 lines with
        | none => return 0
        | some (n, line) => do
          let name := a.operands.headD ['-']
          if a.has 'c' then
            Run.say "sort".toList
              (name ++ ':' :: Raw.decimal n ++ ": disorder: ".toList ++ line)
          return 1
      else
        let lines := sorted delimiter keys isStable (a.has 'r') lines
        let lines := if a.has 'u' then
          dropEqual (fun x y => compareByKeys delimiter keys x y == .eq) lines else lines
        let output := lines.flatMap (· ++ ['\n'])
        match a.value? 'o' with
        | none => do
          Run.put output
          return 0
        | some name => do
          let p ← Run.pathOf name
          match ← Run.onHost (·.write p output) with
          | .ok () => return 0
          | .error fault => do
            Run.say "sort".toList
              ("open failed: ".toList ++ name ++ ": ".toList ++ reason fault)
            return 2

end Retint.Shell.Tool
