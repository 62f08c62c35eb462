import Retint.Shell.Tool.Options

/-!
# Tools that copy

Tools whose output is their input, all of it or a part, and the tool that counts it.

## Main definitions

* `Tool.cat`, `Tool.tac`, `Tool.tee` — the input as it is, backwards, and into files
* `Tool.head`, `Tool.tail` — its start and its end
* `Tool.wc` — how large it is
-/

namespace Retint.Shell.Tool

variable {m : Type → Type} [Monad m]

/-! ### All of the input -/

/-- A character as it is shown when it would not be visible. -/
def visible (c : Char) : Text :=
  let low (c : Char) : Text :=
    if c < ' ' then ['^', Char.ofNat (c.toNat + 64)]
    else if c = '\x7f' then "^?".toList
    else [c]
  if c.toNat < 128 then low c else "M-".toList ++ low (Char.ofNat (c.toNat - 128))

/-- A line as it is shown. -/
def showLine (a : Arguments) (line : Text) : Text :=
  let isEnded := line.getLast? = some '\n'
  let body := (Raw.chomp line).flatMap fun c =>
    if c = '\t' then if a.has 'T' || a.has 'A' || a.has 't' then "^I".toList else ['\t']
    else if a.has 'v' || a.has 'A' || a.has 'e' || a.has 't' then visible c else [c]
  body ++ if isEnded then
    if a.has 'E' || a.has 'A' || a.has 'e' then "$\n".toList else ['\n'] else []

/-- The lines with their numbers and without repeated empty ones, as far as asked for; the number
of the next line and whether the last one was empty are handed on. -/
def numberLines (a : Arguments) : List Text → Nat × Bool → Text × (Nat × Bool)
  | [], s => ([], s)
  | line :: rest, (n, wasEmpty) =>
    let isEmpty := line = ['\n']
    if isEmpty && wasEmpty && a.has 's' then numberLines a rest (n, true)
    else
      let isNumbered := if a.has 'b' then !isEmpty else a.has 'n'
      let lead := if isNumbered then Raw.padLeft 6 (Raw.decimal n) ++ ['\t'] else []
      let (more, s) := numberLines a rest (if isNumbered then n + 1 else n, isEmpty)
      (lead ++ showLine a line ++ more, s)

def cat : Tool m := withOptions "cat" (.of "AbeEnstTuv" "" [("show-all", 'A'), ("number", 'n'),
    ("number-nonblank", 'b'), ("squeeze-blank", 's'), ("show-ends", 'E'), ("show-tabs", 'T'),
    ("show-nonprinting", 'v')]) 1 fun a => do
  if a.options.all (·.1 == 'u') then eachOperand "cat" 1 a.operands fun _ t => Run.put t
  else
    let (t, status) ← readOperands "cat" 1 a.operands
    Run.put (numberLines a (Raw.lines t) (1, false)).1
    return status

def tac : Tool m := withOptions "tac" (.of "") 1 fun a =>
  eachOperand "tac" 1 a.operands fun _ t => Run.put (Raw.lines t).reverse.flatten

def tee : Tool m := withOptions "tee" (.of "ai" "" [("append", 'a')]) 1 fun a => do
  let t ← Run.readInput
  Run.put t
  a.operands.foldlM (fun status name => do
    match ← open? (if a.has 'a' then .append else .write) name with
    | .ok k => do
      Run.writeTo k t
      return status
    | .error fault => do
      Run.say "tee".toList (name ++ ": ".toList ++ reason fault)
      return 1) 0

/-! ### A part of the input -/

/-- A count with its unit: bytes or lines. -/
structure Amount where
  count : Nat
  ofBytes : Bool
  /-- Whether the count has a minus sign, or a plus sign. -/
  isNegative : Bool
  isPositive : Bool

/-- The factor that a suffix stands for. -/
def factor? (t : Text) : Option Nat :=
  match String.ofList t with
  | "" => some 1
  | "b" => some 512
  | "K" | "k" | "KiB" => some 1024
  | "kB" | "KB" => some 1000
  | "M" => some 1048576
  | _ => none

/-- A count as it is written. -/
def amount? (ofBytes : Bool) (t : Text) : Option Amount :=
  let (isNegative, isPositive, t) := match t with
    | '-' :: rest => (true, false, rest)
    | '+' :: rest => (false, true, rest)
    | t => (false, false, t)
  let digits := t.takeWhile Char.isDigit
  if digits.isEmpty then none
  else (factor? (t.drop digits.length)).map fun k =>
    ⟨Text.ofDecimal digits * k, ofBytes, isNegative, isPositive⟩

/-- Arguments of which the first one is a count after a hyphen, with the letter of the count put
before it. -/
def spellCount : List Text → List Text
  | ('-' :: c :: more) :: rest =>
    if c.isDigit then
      let digits := (c :: more).takeWhile Char.isDigit
      let unit := (c :: more).drop digits.length
      (if 'c' ∈ unit then "-c".toList else "-n".toList) :: digits :: rest
    else ('-' :: c :: more) :: rest
  | arguments => arguments

/-- The count that the options of a tool ask for; ten lines if they ask for none. -/
def amount (name : String) (a : Arguments) : Run m (Option Amount) := do
  match a.options.reverse.find? fun o => o.1 == 'n' || o.1 == 'c' with
  | none => return some ⟨10, false, false, false⟩
  | some (letter, value) =>
    match amount? (letter == 'c') value with
    | some n => return some n
    | none => do
      let unit := if letter == 'c' then "bytes" else "lines"
      Run.say name.toList (("invalid number of " ++ unit ++ ": '").toList ++ value ++ ['\''])
      return none

/-- The start of a text. -/
def start (n : Amount) (t : Text) : Text :=
  if n.ofBytes then t.take (if n.isNegative then t.length - n.count else n.count)
  else
    let lines := Raw.lines t
    (lines.take (if n.isNegative then lines.length - n.count else n.count)).flatten

/-- The end of a text. -/
def ending (n : Amount) (t : Text) : Text :=
  let skipped (length : Nat) : Nat := if n.isPositive then n.count - 1 else length - n.count
  if n.ofBytes then t.drop (skipped t.length)
  else
    let lines := Raw.lines t
    (lines.drop (skipped lines.length)).flatten

/-- Goes through files with a title before each one if there are several. -/
def withTitles (name : String) (a : Arguments) (operands : List Text) (f : Text → Run m Text) :
    Run m Nat := do
  let showTitles := (1 < operands.length || a.has 'v') && !a.has 'q'
  let (_, status) ← operands.foldlM (fun (isFirst, status) operand => do
    let content ← if operand = ['-'] then do pure (Except.ok (← Run.peekInput))
      else Run.readFile operand
    match content with
    | .error fault => do
      let problem := match fault with
        | .isDirectory => "error reading '".toList ++ operand ++ "': ".toList
        | _ => "cannot open '".toList ++ operand ++ "' for reading: ".toList
      Run.say name.toList (problem ++ reason fault)
      return (isFirst, 1)
    | .ok t => do
      let title := if operand = ['-'] then "standard input".toList else operand
      let lead := if isFirst then [] else ['\n']
      if showTitles then Run.put (lead ++ "==> ".toList ++ title ++ " <==\n".toList)
      Run.put (← f t)
      return (false, status)) (true, 0)
  return status

/-- How much of a pipe is read at a time. -/
def headBlock : Nat := 8192

def head : Tool m := fun arguments =>
  withOptions "head" (.of "qvz" "nc" [("lines", 'n'), ("bytes", 'c'), ("quiet", 'q'),
      ("silent", 'q'), ("verbose", 'v')]) 1 (fun a => do
    match ← amount "head" a with
    | none => return 1
    | some n =>
      let operands := if a.operands.isEmpty then [['-']] else a.operands
      withTitles "head" a operands fun t => do
        let kept := start n t
        if '-' :: [] ∈ operands then
          Run.useInput (if n.isNegative then t.length else kept.length)
            (if n.ofBytes then 1 else headBlock)
        return kept) (spellCount arguments)

def tail : Tool m := fun arguments =>
  withOptions "tail" (.of "qvfFz" "ncs" [("lines", 'n'), ("bytes", 'c'), ("quiet", 'q'),
      ("silent", 'q'), ("verbose", 'v'), ("follow", 'f')]) 1 (fun a => do
    match ← amount "tail" a with
    | none => return 1
    | some n =>
      let operands := if a.operands.isEmpty then [['-']] else a.operands
      withTitles "tail" a operands fun t => do
        if '-' :: [] ∈ operands then Run.useInput t.length 1
        return ending n t) (spellCount arguments)

/-! ### Counting -/

/-- The sizes of a text that can be asked for: lines, words, characters, bytes, and the length of
the longest line. -/
def counts (a : Arguments) (t : Text) : List Nat :=
  let all := !(a.has 'l' || a.has 'w' || a.has 'c' || a.has 'm' || a.has 'L')
  let words := (t.foldl (fun (n, inWord) c =>
    let isSpace := Raw.isSpace c
    (if isSpace || inWord then n else n + 1, !isSpace)) (0, false)).1
  (if a.has 'l' || all then [t.count '\n'] else []) ++
    (if a.has 'w' || all then [words] else []) ++
    (if a.has 'm' then [t.length] else []) ++
    (if a.has 'c' || all then [t.length] else []) ++
    if a.has 'L' then [((Raw.bareLines t).map List.length).foldl max 0] else []

/-- Sizes in columns, with the name of the file if there is one. -/
def countLine (width : Nat) (sizes : List Nat) (name : Text) : Text :=
  Text.joinWith [' '] (sizes.map fun n : Nat => Raw.padLeft width (Raw.decimal n)) ++
    (if name.isEmpty then [] else ' ' :: name) ++ ['\n']

/-- Whether the input is a file. -/
def inputIsFile : Run m Bool := do
  match ← Run.channelOf 0 with
  | none => return false
  | some k =>
    match ← Run.channel k with
    | .file .. => return true
    | _ => return false

def wc : Tool m := withOptions "wc" (.of "lwcmL" "" [("lines", 'l'), ("words", 'w'),
    ("bytes", 'c'), ("chars", 'm'), ("max-line-length", 'L')]) 1 fun a => do
  let columns := (counts a []).length
  let operands := if a.operands.isEmpty then [['-']] else a.operands
  let isPlain ← inputIsFile
  let (found, status) ← operands.foldlM (fun (found, status) operand => do
    match ← Run.readOperand operand with
    | .ok t => return (found ++ [(operand, t)], status)
    | .error .isDirectory => do
      Run.say "wc".toList (operand ++ ": ".toList ++ reason .isDirectory)
      return (found ++ [(operand, [])], 1)
    | .error fault => do
      Run.say "wc".toList (operand ++ ": ".toList ++ reason fault)
      return (found, 1)) (([] : List (Text × Text)), 0)
  let total := (found.map fun (_, t) => t.length).foldl (· + ·) 0
  let hasPipe := ['-'] ∈ operands && !isPlain
  let width :=
    if operands.length = 1 && columns = 1 then 1
    else max (Raw.decimal total).length (if hasPipe then 7 else 1)
  found.forM fun (operand, t) =>
    Run.put (countLine width (counts a t) (if a.operands.isEmpty then [] else operand))
  if 1 < operands.length then
    let sum := found.foldl (fun sums (_, t) => sums.zipWith (· + ·) (counts a t)) (counts a [])
    Run.put (countLine width sum "total".toList)
  return status

end Retint.Shell.Tool
