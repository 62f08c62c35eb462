import Retint.Shell.Regex
import Retint.Shell.Tool.Options

/-!
# Searching lines

The lines that match a pattern are shown, or counted, or only looked for.

## Main definitions

* `Tool.grepPattern` — the pattern that the arguments ask for
* `Tool.Search`, `Search.isHit` — what is searched for, and whether a line has it
* `Search.lines` — what is shown of some lines
* `Tool.grep`

## Main results

* `Search.isHit_invert` — the inverse search finds the other lines
-/

namespace Retint.Shell.Tool

variable {m : Type → Type} [Monad m]

/-- What is searched for. -/
structure Search where
  pattern : Regex
  ignoresCase : Bool
  isInverse : Bool

namespace Search

def subject (s : Search) (line : Text) : Regex.Subject := ⟨line.toArray, s.ignoresCase, false⟩

/-- Whether a line is one that is searched for. -/
def isHit (s : Search) (line : Text) : Bool :=
  (Regex.find? (s.subject line) s.pattern 0).isSome != s.isInverse

theorem isHit_invert (s : Search) (line : Text) :
    { s with isInverse := !s.isInverse }.isHit line = !s.isHit line := by
  cases h : (Regex.find? (s.subject line) s.pattern 0).isSome <;> cases hi : s.isInverse <;>
    simp_all [isHit, subject]

/-- The parts of a line that match, with the number of characters before each. -/
def parts (s : Search) (line : Text) : List (Nat × Text) :=
  let t := s.subject line
  ((Regex.matchesIn t s.pattern).filter fun r => r.start < r.stop).map fun r =>
    (r.start, t.slice r.start r.stop)

end Search

/-! ### What is shown -/

/-- How lines are shown. -/
structure Layout where
  name : Option Text
  numbers : Bool
  offsets : Bool
  before : Nat
  after : Nat
  onlyParts : Bool

/-- What stands before a line. -/
def Layout.lead (l : Layout) (mark : Char) (number offset : Nat) : Text :=
  ((l.name.map (· ++ [mark])).getD []) ++
    (if l.numbers then Raw.decimal number ++ [mark] else []) ++
    if l.offsets then Raw.decimal offset ++ [mark] else []

/-- A line with its number, the characters before it, and whether it is searched for. -/
structure Line where
  text : Text
  number : Nat
  offset : Nat
  isHit : Bool

/-- The lines of a text up to the last one that is needed: with a limit, that is the line of the
last find that counts and the context after it. -/
def markLines (s : Search) (after : Nat) :
    Option Nat → Nat → Nat → Nat → List Text → List Line
  | _, _, _, _, [] => []
  | limit, left, number, offset, line :: rest =>
    if limit = some 0 ∧ left = 0 then []
    else
      let isHit := limit ≠ some 0 && s.isHit (Raw.chomp line)
      let limit := if isHit then limit.map (· - 1) else limit
      let left := if isHit then after else left - 1
      ⟨Raw.chomp line, number, offset, isHit⟩ ::
        markLines s after limit left (number + 1) (offset + line.length) rest

/-- Whether lines that have been passed are near enough to a find. -/
def isNear (n : Nat) (lines : List Line) : Bool := (lines.take n).any (·.isHit)

/-- The lines to be shown: finds and the lines around them. The lines before come in reverse. -/
def inContext (l : Layout) : List Line → List Line → List Line
  | _, [] => []
  | passed, line :: rest =>
    let isShown := line.isHit || isNear l.before rest || isNear l.after passed
    (if isShown then [line] else []) ++ inContext l (line :: passed) rest

/-- What is shown of a find or a line near one. -/
def Layout.show (l : Layout) (s : Search) (line : Line) : Text :=
  if l.onlyParts then
    if line.isHit && !s.isInverse then
      (s.parts line.text).flatMap fun (start, part) =>
        l.lead ':' line.number (line.offset + start) ++ part ++ ['\n']
    else []
  else
    l.lead (if line.isHit then ':' else '-') line.number line.offset ++ line.text ++ ['\n']

/-- The lines to be shown, with a mark between those that do not follow each other. -/
def Layout.render (l : Layout) (s : Search) : Option Nat → List Line → Text
  | _, [] => []
  | last, line :: rest =>
    let isApart := last.any (· + 1 < line.number)
    (if isApart && (l.before != 0 || l.after != 0) then "--\n".toList else []) ++ l.show s line ++
      render l s (some line.number) rest

/-! ### The tool -/

/-- The expression for a text that stands for itself. -/
def literalPattern (t : Text) : Regex := t.foldr (fun c r => .seq (.char c) r) .empty

/-- The pattern that the arguments ask for. A line end separates alternatives. -/
def grepPattern (a : Arguments) (dialect : Option Regex.Dialect) (patterns : List Text) :
    Except String Regex := do
  let read (t : Text) : Except String Regex :=
    match dialect with
    | none => .ok (literalPattern t)
    | some d => (Regex.read d t).map Prod.fst
  let rs ← patterns.mapM read
  let all := match rs with
    | [] => .set { isNegated := false }
    | r :: rs => rs.foldl .alt r
  return if a.has 'x' then .seq (.boundary .textStart) (.seq all (.boundary .textEnd))
    else if a.has 'w' then .seq (.boundary .clearBefore) (.seq all (.boundary .clearAfter))
    else all

/-- The options of the tool. -/
def grepUsage : Usage := .of "EFGPvincqlLowxhHrRsabzUyI" "efmABC" [("regexp", 'e'),
  ("file", 'f'), ("ignore-case", 'i'), ("invert-match", 'v'), ("line-number", 'n'),
  ("count", 'c'), ("quiet", 'q'), ("silent", 'q'), ("files-with-matches", 'l'),
  ("files-without-match", 'L'), ("only-matching", 'o'), ("word-regexp", 'w'),
  ("line-regexp", 'x'), ("extended-regexp", 'E'), ("fixed-strings", 'F'), ("basic-regexp", 'G'),
  ("no-filename", 'h'), ("with-filename", 'H'), ("recursive", 'r'), ("no-messages", 's'),
  ("max-count", 'm'), ("after-context", 'A'), ("before-context", 'B'), ("context", 'C'),
  ("color", 'a'), ("byte-offset", 'b'), ("text", 'a')]

/-- Arguments of which those that are a number after a hyphen ask for context. -/
def spellContext (arguments : List Text) : List Text :=
  arguments.flatMap fun
    | '-' :: c :: more =>
      if (c :: more).all Char.isDigit then ["-C".toList, c :: more] else ['-' :: c :: more]
    | a => [a]

/-- How much of a pipe is read at a time. -/
def grepBlock : Nat := 65536

/-- Searches a text. The answer says whether something is found. -/
def searchText (a : Arguments) (s : Search) (showName : Bool) (name t : Text) : Run m Bool := do
  let number (c : Char) : Option Nat := (a.value? c).bind Raw.natural?
  let context := (number 'C').getD 0
  let isQuiet := a.has 'q' || a.has 'l' || a.has 'L'
  let layout : Layout := {
    name := if showName then some name else none
    numbers := a.has 'n'
    offsets := a.has 'b'
    before := (number 'B').getD context
    after := (number 'A').getD context
    onlyParts := a.has 'o' }
  let limit := if isQuiet then some 1 else number 'm'
  let lines := markLines s (if isQuiet then 0 else layout.after) limit 0 1 0 (Raw.lines t)
  let hits := (lines.filter (·.isHit)).length
  if name = "(standard input)".toList then
    match lines.getLast? with
    | some last =>
      if limit.any (· ≤ hits) then
        Run.useInput (last.offset + last.text.length + 1) grepBlock
      else Run.useInput t.length 1
    | none => Run.useInput t.length 1
  if a.has 'q' then return hits != 0
  if a.has 'l' then
    if hits != 0 then Run.put (name ++ ['\n'])
  else if a.has 'L' then
    if hits == 0 then Run.put (name ++ ['\n'])
  else if a.has 'c' then
    Run.put ((if showName then name ++ [':'] else []) ++ Raw.decimal hits ++ ['\n'])
  else Run.put (layout.render s none (inContext layout [] lines))
  return if a.has 'L' then hits == 0 else hits != 0

/-- The files under a name, in the order of their names, at most so deep. -/
def filesUnder : Nat → Text → Run m (List Text)
  | 0, name => return [name]
  | depth + 1, name => do
    match ← Run.kindOf name with
    | .ok .directory => do
      let p ← Run.pathOf name
      match ← Run.onHost (·.list p) with
      | .error _ => return []
      | .ok names =>
        ((names.map Raw.ofText).mergeSort Text.le).flatMapM fun n =>
          filesUnder depth (Raw.withoutTrailing '/' name ++ '/' :: n)
    | _ => return [name]

/-- The tool in a dialect; without one, patterns are texts that stand for themselves. -/
def grepIn (default : Option Regex.Dialect) : Tool m := fun arguments =>
  withOptions "grep" grepUsage 2 (fun a => do
    let dialect : Option Regex.Dialect :=
      if a.has 'F' then none
      else if a.has 'E' || a.has 'P' then some .extended
      else if a.has 'G' then some .basic
      else default
    let fromFiles ← (a.values 'f').flatMapM fun name => do
      return Raw.bareLines ((← Run.readOperand name).toOption.getD [])
    let given := (a.values 'e').flatMap (Text.splitOn '\n')
    let (patterns, operands, isMissing) := if a.has 'e' || a.has 'f' then
        (given ++ fromFiles, a.operands, false)
      else (Text.splitOn '\n' (a.operands.headD []), a.operands.tail, a.operands.isEmpty)
    if isMissing then
      Run.write 2 "Usage: grep [OPTION]... PATTERNS [FILE]...\n".toList
      Run.write 2 "Try 'grep --help' for more information.\n".toList
      return 2
    else
      match grepPattern a dialect patterns with
      | .error message => do
        Run.say "grep".toList message.toList
        return 2
      | .ok pattern =>
        let s : Search := ⟨pattern, a.has 'i' || a.has 'y', a.has 'v'⟩
        let isDeep := a.has 'r' || a.has 'R'
        let roots := if operands.isEmpty then [if isDeep then ['.'] else ['-']] else operands
        let files ← if isDeep then roots.flatMapM (filesUnder 100) else pure roots
        let showName := ((1 < roots.length || isDeep) && !a.has 'h') || a.has 'H'
        let (found, isBad) ← files.foldlM (fun (found, isBad) name => do
          let content ← if name = ['-'] then do pure (Except.ok (← Run.peekInput))
            else Run.readFile name
          match content with
          | .ok t => do
            let label := if name = ['-'] then "(standard input)".toList else name
            return ((← searchText a s showName label t) || found, isBad)
          | .error fault => do
            if !a.has 's' then
              Run.say "grep".toList (name ++ ": ".toList ++ reason fault)
            return (found, true)) (false, false)
        return if isBad && !(found && a.has 'q') then 2 else if found then 0 else 1)
    (spellContext arguments)

def grep : Tool m := grepIn (some .basic)

end Retint.Shell.Tool
