import Retint.Shell.Format
import Retint.Shell.Tool.Options

/-!
# Tools for lines

Tools that take lines apart and put them together.

## Main definitions

* `Tool.cut`, `Tool.paste` — parts of lines, and lines side by side
* `Tool.uniq`, `Tool.comm` — repeated lines, and the lines that two files share
* `Tool.nl`, `Tool.rev`, `Tool.fold` — lines with numbers, backwards, and broken
* `Tool.expand` — lines without tabs
* `Tool.seq`, `Tool.yes` — a line for each number, and one line over and over
* `Tool.basename`, `Tool.dirname` — the parts of paths
-/

namespace Retint.Shell.Tool

variable {m : Type → Type} [Monad m]

/-- Each line changed by a function; every line of the result is ended. -/
def mapLines (f : Text → Text) (t : Text) : Text :=
  (Raw.bareLines t).flatMap fun line => f line ++ ['\n']

/-! ### Parts of lines -/

/-- A range of positions, which start at one. -/
structure Range where
  first : Nat
  last : Option Nat
deriving DecidableEq, Repr

def Range.contains (r : Range) (n : Nat) : Bool := r.first ≤ n && r.last.all (n ≤ ·)

/-- A range as it is written. -/
def Range.read? (t : Text) : Option Range :=
  match Text.cut? '-' t with
  | none => (Raw.natural? t).bind fun n => if n = 0 then none else some ⟨n, some n⟩
  | some (low, high) =>
    if low.isEmpty && high.isEmpty then none
    else
      match if low.isEmpty then some 1 else Raw.natural? low,
          if high.isEmpty then some none else (Raw.natural? high).map some with
      | some first, some last =>
        if first = 0 || last.any (· < first) then none else some ⟨first, last⟩
      | _, _ => none

/-- Ranges as they are written, with commas between them. -/
def ranges? (t : Text) : Option (List Range) :=
  ((Text.splitOn ',' t).flatMap Text.words).mapM Range.read?

/-- Those members of a list whose positions are chosen. -/
def chosen {α : Type} (ranges : List Range) (complement : Bool) (as : List α) : List α :=
  (as.zipIdx 1).filterMap fun (a, n) =>
    if ranges.any (·.contains n) != complement then some a else none

/-- The fields of a line that are chosen; a line without fields is kept as a whole. -/
def cutFields (delimiter : Char) (glue : Text) (ranges : List Range) (complement : Bool)
    (line : Text) : Text :=
  if delimiter ∈ line then
    Text.joinWith glue (chosen ranges complement (Text.splitOn delimiter line))
  else line

def cut : Tool m := withOptions "cut" (.of "snz" "bcfdOC" [("bytes", 'b'), ("characters", 'c'),
    ("fields", 'f'), ("delimiter", 'd'), ("only-delimited", 's'), ("output-delimiter", 'O'),
    ("complement", 'K')]) 1 fun a => do
  let complement := a.has 'K'
  let list := (a.value? 'f').or ((a.value? 'c').or (a.value? 'b'))
  let delimiter := (a.value? 'd').getD ['\t']
  match list with
  | none => do
    misuse "cut" "you must specify a list of bytes, characters, or fields".toList
    return 1
  | some list =>
    if 1 < delimiter.length then
      misuse "cut" "the delimiter must be a single character".toList
      return 1
    else
      match ranges? list with
      | none => do
        let kind := if a.has 'f' then "field" else "byte/character position"
        misuse "cut" (("invalid " ++ kind ++ " value '").toList ++ list ++ ['\''])
        return 1
      | some ranges =>
        let c := delimiter.headD (Char.ofNat 0)
        let glue := (a.value? 'O').getD (if a.has 'f' then [c] else [])
        let f (t : Text) : Text :=
          if a.has 'f' then
            let lines := (Raw.bareLines t).filter fun line => !(a.has 's' && c ∉ line)
            lines.flatMap fun line => cutFields c glue ranges complement line ++ ['\n']
          else mapLines (chosen ranges complement) t
        let (t, status) ← readOperands "cut" 1 a.operands
        Run.put (f t)
        return status

/-- The delimiters that a list writes, among which escapes can be. -/
def delimiters : Text → List Text
  | '\\' :: '0' :: rest => [] :: delimiters rest
  | '\\' :: 'n' :: rest => ['\n'] :: delimiters rest
  | '\\' :: 't' :: rest => ['\t'] :: delimiters rest
  | '\\' :: c :: rest => [c] :: delimiters rest
  | c :: rest => [c] :: delimiters rest
  | [] => []

/-- Texts with delimiters between them, which are used one after the other. -/
def glueWith (all : List Text) : List Text → List Text → Text
  | _, [] => []
  | _, [t] => t
  | ds, t :: rest =>
    match ds with
    | d :: ds => t ++ d ++ glueWith all ds rest
    | [] =>
      match all with
      | d :: ds => t ++ d ++ glueWith all ds rest
      | [] => t ++ glueWith all [] rest

/-- The lines of several files side by side. -/
def sideBySide (ds : List Text) (files : List (List Text)) : List Text :=
  let height := (files.map List.length).foldl max 0
  (List.range height).map fun i => glueWith ds ds (files.map fun lines => lines.getD i [])

def paste : Tool m := withOptions "paste" (.of "sz" "d" [("delimiters", 'd'), ("serial", 's')]) 1
    fun a => do
  let ds := delimiters ((a.value? 'd').getD ['\t'])
  let ds := if ds.isEmpty then [[]] else ds
  let operands := if a.operands.isEmpty then [['-']] else a.operands
  let dashes := operands.count ['-']
  let input ← if dashes = 0 then pure [] else do pure (Raw.bareLines (← Run.readInput))
  let (files, _, status) ← operands.foldlM (fun (files, k, status) operand => do
    if operand = ['-'] then
      let own := if a.has 's' then input
        else (input.zipIdx.filter fun (_, i) => i % dashes == k).map Prod.fst
      return (files ++ [own], k + 1, status)
    else
      match ← Run.readFile operand with
      | .ok t => return (files ++ [Raw.bareLines t], k, status)
      | .error fault => do
        Run.say "paste".toList (operand ++ ": ".toList ++ reason fault)
        return (files, k, 1)) (([] : List (List Text)), 0, 0)
  let lines := if a.has 's' then files.map (glueWith ds ds) else sideBySide ds files
  Run.put (lines.flatMap (· ++ ['\n']))
  return status

/-! ### Lines that are the same -/

/-- Neighbours that are the same put together, with their number. -/
def groupLines (key : Text → Text) : List Text → List (Text × Nat)
  | [] => []
  | line :: rest =>
    match groupLines key rest with
    | (other, n) :: more =>
      if key line = key other then (line, n + 1) :: more else (line, 1) :: (other, n) :: more
    | [] => [(line, 1)]

/-- What is left of a line after some fields. -/
def skipFields : Nat → Text → Text
  | 0, t => t
  | n + 1, t => skipFields n ((t.dropWhile Raw.isBlank).dropWhile (! Raw.isBlank ·))

def uniq : Tool m := withOptions "uniq" (.of "cduiDz" "fsw" [("count", 'c'), ("repeated", 'd'),
    ("unique", 'u'), ("ignore-case", 'i'), ("skip-fields", 'f'), ("skip-chars", 's'),
    ("check-chars", 'w')]) 1 fun a => do
  let number (c : Char) : Nat := ((a.value? c).bind Raw.natural?).getD 0
  let key (t : Text) : Text :=
    let t := (skipFields (number 'f') t).drop (number 's')
    let t := if a.has 'w' then t.take (number 'w') else t
    if a.has 'i' then t.map Char.toLower else t
  let (t, status) ← readOperands "uniq" 1 (a.operands.take 1)
  let groups := (groupLines key (Raw.bareLines t)).filter fun (_, n) =>
    !(a.has 'd' && n == 1) && !(a.has 'u' && n != 1)
  Run.put (groups.flatMap fun (line, n) =>
    (if a.has 'c' then Raw.padLeft 7 (Raw.decimal n) ++ [' '] else []) ++ line ++ ['\n'])
  return status

/-- The lines of two sorted files, each with the column that it belongs to. -/
def compareLines : Nat → List Text → List Text → List (Nat × Text)
  | 0, _, _ => []
  | _ + 1, [], ys => ys.map fun y => (2, y)
  | _ + 1, xs, [] => xs.map fun x => (1, x)
  | n + 1, x :: xs, y :: ys =>
    if x = y then (3, x) :: compareLines n xs ys
    else if x.le y then (1, x) :: compareLines n xs (y :: ys)
    else (2, y) :: compareLines n (x :: xs) ys

def comm : Tool m := withOptions "comm" (.of "123") 1 fun a => do
  match a.operands with
  | [first, second] => do
    match ← Run.readOperand first, ← Run.readOperand second with
    | .ok t, .ok u =>
      let xs := Raw.bareLines t
      let ys := Raw.bareLines u
      Run.put ((compareLines (xs.length + ys.length + 1) xs ys).flatMap fun (column, line) =>
        let isShown (n : Nat) : Bool := !a.has (Char.ofNat (48 + n))
        if isShown column then
          List.replicate (((List.range column).filter fun n => n != 0 && isShown n).length) '\t' ++
            line ++ ['\n']
        else [])
      return 0
    | .error fault, _ => do
      Run.say "comm".toList (first ++ ": ".toList ++ reason fault)
      return 1
    | _, .error fault => do
      Run.say "comm".toList (second ++ ": ".toList ++ reason fault)
      return 1
  | [] => do
    misuse "comm" "missing operand".toList
    return 1
  | operands => do
    misuse "comm" ("missing operand after '".toList ++ operands.getLast?.getD [] ++ ['\''])
    return 1

/-! ### Numbers and breaks -/

def rev : Tool m := withOptions "rev" (.of "") 1 fun a =>
  filter "rev" (fun t => (Raw.lines t).flatMap fun line =>
    (Raw.chomp line).reverse ++ if line.getLast? = some '\n' then ['\n'] else []) a.operands

/-- Lines with their numbers. -/
def numbered (isNumbered : Text → Bool) (render : Int → Text) (blank : Text) (step : Int) :
    Int → List Text → List Text
  | _, [] => []
  | n, line :: rest =>
    if isNumbered line then
      (render n ++ line) :: numbered isNumbered render blank step (n + step) rest
    else (blank ++ line) :: numbered isNumbered render blank step n rest

def nl : Tool m := withOptions "nl" (.of "p" "bdfhilnsvw" [("body-numbering", 'b'),
    ("number-width", 'w'), ("number-separator", 's'), ("starting-line-number", 'v'),
    ("line-increment", 'i'), ("number-format", 'n')]) 1 fun a => do
  let number (c : Char) (default : Int) : Int := ((a.value? c).bind Raw.integer?).getD default
  let width := (number 'w' 6).toNat
  let separator := (a.value? 's').getD ['\t']
  let style := (a.value? 'b').getD ['t']
  let layout := (a.value? 'n').getD "rn".toList
  let render (n : Int) : Text :=
    (if layout = "ln".toList then Raw.padRight width (Raw.decimal n)
      else if layout = "rz".toList then
        (Format.Field.mk ['0'] width none 'd').writeInteger n
      else Raw.padLeft width (Raw.decimal n)) ++ separator
  let isNumbered (line : Text) : Bool := style = ['a'] || (style = ['t'] && !line.isEmpty)
  let blank := List.replicate (width + separator.length) ' '
  filter "nl" (fun t => (numbered isNumbered render blank (number 'i' 1) (number 'v' 1)
    (Raw.bareLines t)).flatMap (· ++ ['\n'])) a.operands

/-- The column after a character. -/
def columnAfter (countsBytes : Bool) (column : Nat) (c : Char) : Nat :=
  if countsBytes then column + 1
  else if c = '\t' then column + 8 - column % 8
  else if c = '\x08' then column - 1
  else if c = '\r' then 0
  else column + 1

/-- Breaks a line so that no part is wider than the width; `current` is the part so far in
reverse. -/
def foldLine (width : Nat) (countsBytes atSpaces : Bool) : Nat → Text → Text → List Text
  | 0, current, rest => [current.reverse ++ rest]
  | _ + 1, current, [] => [current.reverse]
  | fuel + 1, current, c :: rest =>
    let column := (current.reverse.foldl (columnAfter countsBytes) 0)
    if width < columnAfter countsBytes column c ∧ current ≠ [] then
      let tail := current.takeWhile (! Raw.isBlank ·)
      if atSpaces && tail.length < current.length then
        (current.drop tail.length).reverse ::
          foldLine width countsBytes atSpaces fuel tail (c :: rest)
      else current.reverse :: foldLine width countsBytes atSpaces fuel [] (c :: rest)
    else foldLine width countsBytes atSpaces fuel (c :: current) rest

def fold : Tool m := withOptions "fold" (.of "bs" "w" [("width", 'w'), ("spaces", 's'),
    ("bytes", 'b')]) 1 fun a =>
  let width := ((a.value? 'w').bind Raw.natural?).getD 80
  filter "fold" (fun t => (Raw.lines t).flatMap fun line =>
    let parts := foldLine width (a.has 'b') (a.has 's') (4 * line.length + 4) [] (Raw.chomp line)
    Text.joinWith ['\n'] parts ++ if line.getLast? = some '\n' then ['\n'] else []) a.operands

/-- A line with spaces in the place of tabs, from a column on. -/
def expandLine (width : Nat) : Nat → Text → Text
  | _, [] => []
  | column, c :: rest =>
    if c = '\t' then
      let n := width - column % width
      List.replicate n ' ' ++ expandLine width (column + n) rest
    else if c = '\x08' then c :: expandLine width (column - 1) rest
    else c :: expandLine width (column + 1) rest

def expand : Tool m := withOptions "expand" (.of "i" "t" [("tabs", 't'), ("initial", 'i')]) 1
  fun a =>
    let width := max 1 (((a.value? 't').bind Raw.natural?).getD 8)
    filter "expand" (fun t => (Raw.lines t).flatMap fun line =>
      if a.has 'i' then
        let blank := line.takeWhile Raw.isBlank
        expandLine width 0 blank ++ line.drop blank.length
      else expandLine width 0 line) a.operands

/-! ### Numbers in a row -/

/-- How often a line is written that is written over and over. What reads the lines takes no more of
them. -/
def manyTimes : Nat := 20000

def yes : Tool m := fun arguments => do
  let line := Text.joinWith [' '] (if arguments.isEmpty then [['y']] else arguments) ++ ['\n']
  Run.put (List.replicate manyTimes line).flatten
  return 1

/-- A decimal number: its digits as a whole number, and how many of them are places. -/
def decimalNumber? (t : Text) : Option (Int × Nat) :=
  match Text.cut? '.' t with
  | none => (Raw.integer? t).map (·, 0)
  | some (whole, places) =>
    (Raw.integer? ((if whole = [] then ['0'] else whole) ++ places)).map (·, places.length)

/-- A decimal number with so many places. -/
def decimalText (places : Nat) (n : Int) : Text :=
  (if n < 0 then ['-'] else []) ++ Number.withPoint places n.natAbs

/-- The numbers from one to another. -/
def row (step last : Int) : Nat → Int → List Int
  | 0, _ => []
  | fuel + 1, n =>
    if (0 < step ∧ last < n) ∨ (step < 0 ∧ n < last) then []
    else n :: row step last fuel (n + step)

/-- Arguments in which a negative number is no option. -/
def spellNegative (arguments : List Text) : List Text :=
  match arguments with
  | ('-' :: c :: more) :: rest =>
    if c.isDigit then ['-', '-'] :: ('-' :: c :: more) :: rest else arguments
  | _ => arguments

def seq : Tool m := fun arguments => do
  match (Usage.of "w" "sf" [("separator", 's'), ("equal-width", 'w'), ("format", 'f')]).readStrict
      (spellNegative arguments) with
  | .error message => do
    misuse "seq" message
    return 1
  | .ok a =>
    match a.operands.mapM decimalNumber? with
    | none => do
      let bad := (a.operands.find? fun t => (decimalNumber? t).isNone).getD []
      misuse "seq" ("invalid floating point argument: '".toList ++ bad ++ ['\''])
      return 1
    | some numbers =>
      let bounds := match numbers with
        | [last] => some ((1, 0), (1, 0), last)
        | [first, last] => some (first, (1, 0), last)
        | [first, step, last] => some (first, step, last)
        | _ => none
      match bounds with
      | none => do
        if numbers.isEmpty then misuse "seq" "missing operand".toList
        else misuse "seq" ("extra operand '".toList ++ (a.operands.getD 3 []) ++ ['\''])
        return 1
      | some (first, step, last) =>
        let places := max first.2 step.2
        let finest := max places last.2
        let scale (n : Int × Nat) : Int := n.1 * Number.tenTo (finest - n.2)
        if step.1 = 0 then
          misuse "seq" "invalid Zero increment value: '0'".toList
          return 1
        else
          let count := ((scale last - scale first) / scale step).natAbs + 1
          let shrink : Nat := Number.tenTo (finest - places)
          let texts := (row (scale step) (scale last) count (scale first)).map fun n =>
            decimalText places (n.tdiv shrink)
          let width := (texts.map List.length).foldl max 0
          let texts := if a.has 'w' then texts.map fun t =>
            match t with
            | '-' :: t => '-' :: List.replicate (width - 1 - t.length) '0' ++ t
            | t => List.replicate (width - t.length) '0' ++ t
            else texts
          let texts := match a.value? 'f' with
            | none => texts
            | some format => texts.map fun t =>
              (Format.parts "feg".toList [] false 0 format).flatMap fun
                | .literal l => l
                | .bad l => l
                | .place s =>
                  let size : Format.Size → Nat
                    | .given n => n
                    | .argument => 0
                  (Format.Field.mk s.flags (size s.width) (s.precision.map size)
                    s.conversion).writeFloat (Number.read t)
          let separator := (a.value? 's').getD ['\n']
          if !texts.isEmpty then Run.put (Text.joinWith separator texts ++ ['\n'])
          return 0

/-! ### Paths -/

/-- The part of a path before its last slash. -/
def directoryOf (path : Text) : Text :=
  let bare := Raw.withoutTrailing '/' path
  if bare.isEmpty && !path.isEmpty then ['/']
  else if '/' ∈ bare then
    match Raw.withoutTrailing '/' (bare.reverse.dropWhile (· != '/')).reverse with
    | [] => ['/']
    | dir => dir
  else ['.']

/-- The part of a path after its last slash. -/
def nameOf (path : Text) : Text :=
  let bare := Raw.withoutTrailing '/' path
  if bare.isEmpty && !path.isEmpty then ['/']
  else (bare.reverse.takeWhile (· != '/')).reverse

/-- A name without an ending, unless it is nothing but that. -/
def withoutEnding (suffix name : Text) : Text :=
  if suffix ≠ name ∧ Text.endsWith suffix name then name.take (name.length - suffix.length)
  else name

def dirname : Tool m := withOptions "dirname" (.of "z") 1 fun a => do
  if a.operands.isEmpty then
    misuse "dirname" "missing operand".toList
    return 1
  else
    Run.put (a.operands.flatMap fun path => directoryOf path ++ ['\n'])
    return 0

def basename : Tool m := withOptions "basename" (.of "az" "s" [("multiple", 'a'),
    ("suffix", 's')]) 1 fun a => do
  match a.operands with
  | [] => do
    misuse "basename" "missing operand".toList
    return 1
  | path :: rest =>
    if a.has 'a' || a.has 's' then
      let suffix := (a.value? 's').getD []
      Run.put (a.operands.flatMap fun path => withoutEnding suffix (nameOf path) ++ ['\n'])
      return 0
    else
      match rest with
      | [] => do
        Run.put (nameOf path ++ ['\n'])
        return 0
      | [suffix] => do
        Run.put (withoutEnding suffix (nameOf path) ++ ['\n'])
        return 0
      | _ :: extra :: _ => do
        misuse "basename" ("extra operand '".toList ++ extra ++ ['\''])
        return 1

end Retint.Shell.Tool
