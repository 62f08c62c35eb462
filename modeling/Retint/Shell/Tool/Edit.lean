import Retint.Shell.Tool.EditScript
import Retint.Shell.Tool.Options

/-!
# Editing lines by a script

Each line is read, changed by the commands that are meant for it, and printed. Another text can be
kept on the side from line to line.

## Main definitions

* `Edit.Editor` — what an editor has in hand
* `Edit.substitute` — a text after a substitution
* `Edit.edit` — the run of a script on lines
* `Tool.sed` — the tool
-/

namespace Retint.Shell.Edit

/-! ### Lines -/

/-- A text, and whether a line end follows it. -/
structure Line where
  text : Text
  isEnded : Bool := true
deriving DecidableEq, Repr

/-- The lines of a text by the character that ends them. -/
def linesBy (separator : Char) (t : Text) : List Line :=
  match (Text.splitOn separator t).reverse with
  | [] => []
  | [] :: before => before.reverse.map fun t => ⟨t, true⟩
  | last :: before => before.reverse.map (fun t => ⟨t, true⟩) ++ [⟨last, false⟩]

/-- What is added after a line. -/
inductive Addition
  | text (t : Text)
  | line (t : Text)
deriving DecidableEq, Repr

/-- What an editor has in hand. -/
structure Editor where
  rest : List Line
  number : Nat := 0
  line : Line := ⟨[], true⟩
  hold : Line := ⟨[], true⟩
  /-- What comes after the current line, the latest first. -/
  additions : List Addition := []
  wasSubstituted : Bool := false
  /-- The ranges that are open, by their instruction, with the line at which they end if that is
  known. -/
  ranges : List (Nat × Option Nat) := []
  pattern : Option (Regex × Nat) := none
  /-- What has been written, the latest first; without a name to the output. -/
  written : List (Option Text × Text) := []
  /-- The files whose last line has no end yet. -/
  unended : List (Option Text) := []
  /-- The lines that have been taken from other files. -/
  taken : List (Text × Nat) := []
  status : Nat := 0
  isOver : Bool := false
  /-- What cannot be done. -/
  mistake : Option Text := none

/-- What an editor is told from outside. -/
structure Setting where
  script : Script
  name : Text
  isQuiet : Bool
  separator : Char
  width : Nat
  files : Text → Option Text

namespace Editor

/-- Writes a line to a file. -/
def emit (e : Editor) (separator : Char) (file : Option Text) (l : Line) : Editor :=
  let gap := if file ∈ e.unended then [separator] else []
  let others := e.unended.filter (· != file)
  { e with
    written := (file, gap ++ l.text ++ if l.isEnded then [separator] else []) :: e.written
    unended := if l.isEnded then others else file :: others }

/-- Writes text that has its own line ends. -/
def emitText (e : Editor) (separator : Char) (t : Text) : Editor :=
  let gap := if none ∈ e.unended then [separator] else []
  { e with written := (none, gap ++ t) :: e.written, unended := e.unended.filter (· != none) }

/-- Writes what is to come after the current line. -/
def flush (e : Editor) (separator : Char) : Editor :=
  e.additions.reverse.foldl (fun e a =>
    match a with
    | .text t => e.emitText separator t
    | .line t => e.emit separator none ⟨t, true⟩) { e with additions := [] }

def print (e : Editor) (separator : Char) : Editor := e.emit separator none e.line

/-- Ends the work on a line. -/
def endLine (e : Editor) (s : Setting) : Editor :=
  (if s.isQuiet then e else e.print s.separator).flush s.separator

end Editor

/-! ### Selecting -/

/-- The text as it is searched for a pattern. -/
def subject (p : LinePattern) (t : Text) : Regex.Subject := ⟨t.toArray, p.ignoresCase, p.hasLines⟩

/-- The expression that a pattern means, which is then the last one used. -/
def Editor.resolve (e : Editor) (p : LinePattern) : Option (Regex × Nat) × Editor :=
  match p.regex.or e.pattern with
  | some r => (some r, { e with pattern := some r })
  | none => (none, { e with
      isOver := true, status := 1, mistake := some "no previous regular expression".toList })

/-- Whether a pattern is found in the current line. -/
def Editor.finds (e : Editor) (p : LinePattern) : Bool × Editor :=
  match e.resolve p with
  | (some (r, _), e) => ((Regex.find? (subject p e.line.text) r 0).isSome, e)
  | (none, e) => (false, e)

/-- Whether the current line is a place. -/
def Editor.isAt (e : Editor) : Place → Bool × Editor
  | .line n => (e.number == n, e)
  | .every step first =>
    (if step = 0 then e.number == first
      else first ≤ e.number && (e.number - first) % step == 0, e)
  | .last => (e.rest.isEmpty, e)
  | .found p => e.finds p

/-- The line at which a range ends that starts at a line, if that is known. -/
def Until.line? (start : Nat) : Until → Option Nat
  | .line n => some n
  | .after n => some (start + n)
  | .multiple n => some (if n = 0 then start else (start + n - 1) / n * n)
  | _ => none

/-- Whether the current line is where an open range ends. -/
def Editor.isEnd (e : Editor) : Until → Bool × Editor
  | .last => (e.rest.isEmpty, e)
  | .found p => e.finds p
  | _ => (false, e)

def Editor.closeRange (e : Editor) (k : Nat) : Editor :=
  { e with ranges := e.ranges.filter (·.1 != k) }

/-- Whether the current line is in the range of an instruction. -/
def Editor.isInRange (e : Editor) (k : Nat) (s : Selection) (stop : Until) : Bool × Editor :=
  match e.ranges.lookup k with
  | some (some n) =>
    (e.number ≤ n, if n ≤ e.number then e.closeRange k else e)
  | some none =>
    let (ends, e) := e.isEnd stop
    (true, if ends then e.closeRange k else e)
  | none =>
    let (starts, e) := match s.first with
      | some p => e.isAt p
      | none => (true, e)
    if starts then
      match stop.line? e.number with
      | some n =>
        (true, if n ≤ e.number then e else { e with ranges := (k, some n) :: e.ranges })
      | none => (true, { e with ranges := (k, none) :: e.ranges })
    else (false, e)

/-- Whether an instruction is meant for the current line. -/
def Editor.selects (e : Editor) (k : Nat) (s : Selection) : Bool × Editor :=
  let (found, e) := match s.first, s.stop with
    | none, _ => (true, e)
    | some p, none => e.isAt p
    | some _, some stop => e.isInRange k s stop
  (found != s.isNegated, e)

/-! ### Substituting -/

/-- A text in a case: that of all letters, and that of the first one. -/
def inCase (all next : Case) (t : Text) : Text :=
  let t := match all with
    | .upper => t.map Char.toUpper
    | .lower => t.map Char.toLower
    | _ => t
  match next, t with
  | .nextUpper, c :: rest => c.toUpper :: rest
  | .nextLower, c :: rest => c.toLower :: rest
  | _, t => t

/-- The replacement for a match, given the case of all letters and of the next one. -/
def fill (s : Regex.Subject) (m : Regex.Match) : Case → Case → List Part → Text
  | _, _, [] => []
  | all, next, .literal t :: rest =>
    inCase all next t ++ fill s m all (if t.isEmpty then next else .asIs) rest
  | all, next, .group n :: rest =>
    let t := m.text s n
    inCase all next t ++ fill s m all (if t.isEmpty then next else .asIs) rest
  | all, next, .letters c :: rest =>
    match c with
    | .upper | .lower => fill s m c next rest
    | .asIs => fill s m .asIs .asIs rest
    | c => fill s m all c rest

/-- The text from a place on with matches replaced. -/
def replaced (s : Regex.Subject) (template : List Part) : Nat → List Regex.Match → Text
  | i, [] => s.slice i s.chars.size
  | i, m :: rest =>
    s.slice i m.start ++ fill s m .asIs .asIs template ++ replaced s template m.stop rest

/-- A text after a substitution, if there is something to replace. -/
def substitute (s : Substitution) (r : Regex) (t : Text) : Option Text :=
  let subject := subject s.pattern t
  let found := (Regex.matchesIn subject r).drop (s.number - 1)
  let found := if s.isGlobal then found else found.take 1
  if found.isEmpty then none else some (replaced subject s.template 0 found)

/-! ### Showing -/

/-- A character as it is shown. -/
def visible (c : Char) : Text :=
  match c with
  | '\\' => "\\\\".toList
  | '\x07' => "\\a".toList
  | '\x08' => "\\b".toList
  | '\x0c' => "\\f".toList
  | '\n' => "\\n".toList
  | '\r' => "\\r".toList
  | '\t' => "\\t".toList
  | '\x0b' => "\\v".toList
  | c =>
    if ' ' ≤ c ∧ c ≤ '~' then [c]
    else
      let digits := Nat.toDigits 8 c.toNat
      '\\' :: List.replicate (3 - digits.length) '0' ++ digits

/-- Pieces in lines of some width, of which the last character is a mark. -/
def wrapped (width : Nat) : Nat → List Text → Text
  | _, [] => ['$']
  | used, p :: rest =>
    if width ≠ 0 ∧ width ≤ used + p.length then
      "\\\n".toList ++ p ++ wrapped width p.length rest
    else p ++ wrapped width (used + p.length) rest

/-- A text as it is shown, in lines of some width; nothing is broken if the width is zero. -/
def shown (width : Nat) (t : Text) : Text := wrapped width 0 (t.map visible)

/-! ### Running -/

/-- The part of a text before its first line end. -/
def firstLine (separator : Char) (t : Text) : Text := t.takeWhile (· != separator)

/-- Reads the next line, before which what is to come after the current one is written. -/
def Editor.readLine (e : Editor) (separator : Char) (joins : Bool) : Editor :=
  let e := e.flush separator
  match e.rest with
  | [] => e
  | l :: rest =>
    { e with
      rest := rest
      number := e.number + 1
      line := if joins then ⟨e.line.text ++ separator :: l.text, l.isEnded⟩ else l }

/-- What comes after an instruction. -/
inductive Next
  | following
  | goTo (k : Nat)
  /-- The work on the line is done, and the line is printed. -/
  | done
  /-- The work on the line is done. -/
  | dropped
  /-- The work on what is left of the line begins. -/
  | again
deriving DecidableEq, Repr

/-- The place of a label; without one, the end. -/
def target (s : Setting) (label : Text) : Next :=
  if label.isEmpty then .done
  else
    match s.script.labels.lookup label with
    | some k => .goTo k
    | none => .done

/-- The next line of another file. -/
def Editor.takeLine (e : Editor) (s : Setting) (name : Text) : Editor :=
  let n := (e.taken.lookup name).getD 0
  match ((s.files name).map Raw.bareLines).bind fun ls => ls[n]? with
  | none => e
  | some l => { e with
      additions := .line l :: e.additions
      taken := (name, n + 1) :: e.taken.filter (·.1 != name) }

/-- The file that a name means; nothing for the output. -/
def fileOf (name : Text) : Option Text := if name = "/dev/stdout".toList then none else some name

/-- Does what an instruction says to the current line. -/
def Editor.act (e : Editor) (s : Setting) (k : Nat) (i : Instruction) : Editor × Next :=
  let sep := s.separator
  match i.action with
  | .block _ | .nothing => (e, .following)
  | .append t => ({ e with additions := .text t :: e.additions }, .following)
  | .insert t => (e.emitText sep t, .following)
  | .change t =>
    let isLast := i.selection.isNegated || i.selection.stop.isNone || (e.ranges.lookup k).isNone
    (if isLast then e.emitText sep t else e, .dropped)
  | .jump label => (e, target s label)
  | .jumpIf b label =>
    if e.wasSubstituted = b then ({ e with wasSubstituted := false }, target s label)
    else ({ e with wasSubstituted := false }, .following)
  | .delete => (e, .dropped)
  | .deleteFirst =>
    if sep ∈ e.line.text then
      let rest := (e.line.text.dropWhile (· != sep)).tail
      ({ e with line := { e.line with text := rest } }, .again)
    else (e, .dropped)
  | .recallHold => ({ e with line := e.hold }, .following)
  | .recallMore =>
    ({ e with line := ⟨e.line.text ++ sep :: e.hold.text, e.hold.isEnded⟩ }, .following)
  | .hold => ({ e with hold := e.line }, .following)
  | .holdMore =>
    ({ e with hold := ⟨e.hold.text ++ sep :: e.line.text, e.line.isEnded⟩ }, .following)
  | .exchange => ({ e with line := e.hold, hold := e.line }, .following)
  | .showName => (e.emit '\n' none ⟨s.name, true⟩, .following)
  | .showVisibly width =>
    (e.emit '\n' none ⟨shown (width.getD s.width) e.line.text, true⟩, .following)
  | .showNumber => (e.emit '\n' none ⟨Raw.decimal e.number, true⟩, .following)
  | .next =>
    if e.rest.isEmpty then ({ e with isOver := true }, .done)
    else ((if s.isQuiet then e else e.print sep).readLine sep false, .following)
  | .nextMore =>
    if e.rest.isEmpty then ({ e with isOver := true }, .done) else (e.readLine sep true, .following)
  | .print => (e.print sep, .following)
  | .printFirst => (e.emit sep none ⟨firstLine sep e.line.text, true⟩, .following)
  | .quit n silently =>
    ({ e with isOver := true, status := n }, if silently then .dropped else .done)
  | .appendFile name =>
    match s.files name with
    | some t => ({ e with additions := .text t :: e.additions }, .following)
    | none => (e, .following)
  | .appendLine name => (e.takeLine s name, .following)
  | .write name => (e.emit sep (fileOf name) e.line, .following)
  | .writeFirst name =>
    (e.emit sep (fileOf name) ⟨firstLine sep e.line.text, true⟩, .following)
  | .transliterate table =>
    let f (c : Char) : Char := (table.lookup c).getD c
    ({ e with line := { e.line with text := e.line.text.map f } }, .following)
  | .clear => ({ e with line := { e.line with text := [] } }, .following)
  | .substitute sub =>
    match e.resolve sub.pattern with
    | (none, e) => (e, .dropped)
    | (some (r, _), e) =>
      match substitute sub r e.line.text with
      | none => (e, .following)
      | some t =>
        let e := { e with line := { e.line with text := t }, wasSubstituted := true }
        let e := if sub.prints then e.print sep else e
        (match sub.file with
          | some name => e.emit sep (fileOf name) e.line
          | none => e, .following)

/-- Runs instructions from one on, and reads line after line. The first argument bounds the number
of steps. -/
def work (s : Setting) : Nat → Nat → Editor → Editor
  | 0, _, e => e
  | fuel + 1, k, e =>
    let next (e : Editor) (n : Next) : Editor :=
      let begin (e : Editor) : Editor :=
        if e.isOver || e.rest.isEmpty then e
        else work s fuel 0 { e.readLine s.separator false with wasSubstituted := false }
      match n with
      | .following => work s fuel (k + 1) e
      | .goTo k => work s fuel k e
      | .done => begin (e.endLine s)
      | .dropped => begin (e.flush s.separator)
      | .again => work s fuel 0 (e.flush s.separator)
    match s.script.instructions[k]? with
    | none => next e .done
    | some i =>
      let (isMeant, e) := e.selects k i.selection
      if e.mistake.isSome then e.flush s.separator
      else
        match isMeant, i.action with
        | true, _ =>
          let (e, n) := e.act s k i
          next e n
        | false, .block stop => next e (.goTo stop)
        | false, _ => next e .following

/-- The number of steps that a script may take. -/
def stepLimit : Nat := 100000000

/-- Runs a script on lines, from an editor on. -/
def edit (s : Setting) (e : Editor) : Editor :=
  if e.rest.isEmpty then e
  else
    let opened := (s.script.instructions.toList.zipIdx.filter (·.1.selection.isOpen)).map
      fun (_, k) => (k, none)
    work s stepLimit 0 { e.readLine s.separator false with ranges := opened }

/-! ### Names of files in a script -/

/-- The files whose content a script puts out. -/
def Script.sources (s : Script) : List Text :=
  s.instructions.toList.filterMap fun i =>
    match i.action with
    | .appendFile name | .appendLine name => some name
    | _ => none

/-- The files that a script writes. -/
def Script.targets (s : Script) : List Text :=
  s.instructions.toList.filterMap fun i =>
    match i.action with
    | .write name | .writeFirst name => fileOf name
    | .substitute sub => sub.file.bind fileOf
    | _ => none

end Edit

namespace Tool

variable {m : Type → Type} [Monad m]

/-! ### The tool -/

/-- A part of a script as it is given: a text, or the content of a file. -/
structure ScriptPart where
  file : Option Text
  text : Text

/-- What is said of a mistake in a script that is made of parts. -/
def scriptMistake (parts : List ScriptPart) : Edit.Mistake → Text
  | .label name => "can't find label for jump to `".toList ++ name ++ ['\'']
  | .inScript position message =>
    let rec go : Nat → Nat → List ScriptPart → Text
      | n, position, p :: rest =>
        if position ≤ p.text.length ∨ rest.isEmpty then
          match p.file with
          | none =>
            "-e expression #".toList ++ Raw.decimal n ++ ", char ".toList ++
              Raw.decimal position ++ ": ".toList ++ message
          | some name =>
            let line := (p.text.take position).count '\n' + 1
            "file ".toList ++ name ++ " line ".toList ++ Raw.decimal line ++ ": ".toList ++ message
        else go (if p.file.isNone then n + 1 else n) (position - p.text.length - 1) rest
      | _, _, [] => message
    go 1 position parts

/-- The options of the tool. -/
def sedUsage : Usage := .of "nErsiuzbp" "eflS" [("quiet", 'n'), ("silent", 'n'),
  ("regexp-extended", 'E'), ("expression", 'e'), ("file", 'f'), ("in-place", 'i'),
  ("separate", 's'), ("null-data", 'z'), ("unbuffered", 'u'), ("posix", 'p'),
  ("line-length", 'l')]

/-- Arguments of which those that ask for a change of the files themselves, with an ending for the
old content, are told apart. -/
def spellInPlace (arguments : List Text) : List Text :=
  arguments.flatMap fun a =>
    match a with
    | '-' :: 'i' :: c :: rest => ["-i".toList, '-' :: 'S' :: c :: rest]
    | a =>
      match Text.dropLead? "--in-place=".toList a with
      | some suffix => ["-i".toList, "-S".toList ++ suffix]
      | none => [a]

/-- How much of a pipe is read at a time. -/
def sedBlock : Nat := 4096

/-- Writes what an editor has written. -/
def writeOut (e : Edit.Editor) : Run m Unit := do
  let pieces := e.written.reverse
  Run.put ((pieces.filter (·.1.isNone)).flatMap Prod.snd)
  let names := (pieces.filterMap Prod.fst).eraseDups
  names.forM fun name => do
    let t := (pieces.filter (·.1 == some name)).flatMap Prod.snd
    match Run.streamName? name with
    | some stream => Run.write stream t
    | none => do
      let p ← Run.pathOf name
      let _ ← Run.onHost (·.write p t)

/-- Edits files in their places. -/
def editFiles (s : Edit.Setting) (suffix : Option Text) (files : List (Text × Text)) :
    Run m Nat := do
  let e ← files.foldlM (fun (e : Edit.Editor) (name, t) => do
    if e.isOver then return e
    let e := Edit.edit { s with name := name }
      { e with rest := Edit.linesBy s.separator t, number := 0, written := [], unended := [] }
    let p ← Run.pathOf name
    if let some suffix := suffix then
      let q ← Run.pathOf (name ++ suffix)
      let _ ← Run.onHost (·.write q t)
    let new := (e.written.reverse.filter (·.1.isNone)).flatMap Prod.snd
    let _ ← Run.onHost (·.write p new)
    writeOut { e with written := e.written.filter (·.1.isSome) }
    return e) { rest := [] }
  return e.status

/-- Edits files one by one, or all of them together. -/
def editAll (s : Edit.Setting) (isSeparate : Bool) (files : List (Text × Text)) : Run m Nat := do
  let groups := if isSeparate then files.map fun f => (f.1, Edit.linesBy s.separator f.2)
    else [((files.head?.map Prod.fst).getD ['-'],
      files.flatMap fun f => Edit.linesBy s.separator f.2)]
  let e := groups.foldl (fun (e : Edit.Editor) (name, lines) =>
    if e.isOver then e
    else Edit.edit { s with name := name } { e with rest := lines, number := 0 }) { rest := [] }
  writeOut e
  if let some message := e.mistake then
    Run.say "sed".toList ("-e expression #1, char 0: ".toList ++ message)
  let used := files.find? (·.1 = ['-'])
  if let some (_, t) := used then
    let left := (e.rest.map fun l => l.text.length + 1).foldl (· + ·) 0
    Run.useInput (if left ≤ t.length then t.length - left else t.length)
      (if e.rest.isEmpty then 1 else sedBlock)
  return e.status

/-- The parts of the script that the options ask for. -/
def scriptParts (a : Arguments) : Run m (Except Text (List ScriptPart)) :=
  (a.options.filter fun o => o.1 == 'e' || o.1 == 'f').foldlM (fun found (letter, value) => do
    match found with
    | .error message => return .error message
    | .ok parts =>
      if letter = 'e' then return .ok (parts ++ [⟨none, value⟩])
      else
        match ← Run.readOperand value with
        | .ok t =>
          return .ok (parts ++ [⟨some value, if t.getLast? = some '\n' then t.dropLast else t⟩])
        | .error fault =>
          return .error ("couldn't open file ".toList ++ value ++ ": ".toList ++ reason fault))
    (.ok [])

/-- Runs a script that has been read. -/
def sedRun (a : Arguments) (operands : List Text) (script : Edit.Script) : Run m Nat := do
  let isInPlace := a.has 'i'
  if isInPlace && operands.isEmpty then
    Run.say "sed".toList "no input files".toList
    return 4
  let sources ← script.sources.filterMapM fun name => do
    match ← Run.readFile name with
    | .ok t => return some (name, t)
    | .error _ => return none
  script.targets.forM fun name => do
    if (Run.streamName? name).isNone then
      let p ← Run.pathOf name
      let _ ← Run.onHost (·.write p [])
  let operands := if operands.isEmpty then [['-']] else operands
  let (files, status) ← operands.foldlM (fun (files, status) name => do
    let content ← if name = ['-'] && !isInPlace then do pure (.ok (← Run.peekInput))
      else Run.readFile name
    match content with
    | .ok t => return (files ++ [(name, t)], status)
    | .error .isDirectory => do
      if isInPlace then
        Run.say "sed".toList ("couldn't edit ".toList ++ name ++ ": not a regular file".toList)
      else Run.say "sed".toList ("read error on ".toList ++ name ++ ": Is a directory".toList)
      return (files, 4)
    | .error fault => do
      Run.say "sed".toList ("can't read ".toList ++ name ++ ": ".toList ++ reason fault)
      return (files, 2)) (([] : List (Text × Text)), 0)
  let s : Edit.Setting := {
    script := script
    name := ['-']
    isQuiet := a.has 'n' || script.isQuiet
    separator := if a.has 'z' then Char.ofNat 0 else '\n'
    width := ((a.value? 'l').bind Raw.natural?).getD 70
    files := fun name => sources.lookup name }
  let result ← if isInPlace then editFiles s (a.value? 'S') files
    else editAll s (a.has 's') files
  return if result = 0 then status else result

def sed : Tool m := fun arguments =>
  withOptions "sed" sedUsage 1 (fun a => do
    match ← scriptParts a with
    | .error message => do
      Run.say "sed".toList message
      return 1
    | .ok found => do
      let (parts, operands) := if found.isEmpty then
          (a.operands.take 1 |>.map (ScriptPart.mk none), a.operands.drop 1)
        else (found, a.operands)
      if parts.isEmpty then
        Run.write 2 ("Usage: sed [OPTION]... \x7bscript-only-if-no-other-script\x7d " ++
          "[input-file]...\n").toList
        return 1
      else
        let dialect := if a.has 'E' || a.has 'r' then Regex.Dialect.extended else .basic
        match Edit.Script.read dialect (Text.joinWith ['\n'] (parts.map ScriptPart.text)) with
        | .error mistake => do
          Run.say "sed".toList (scriptMistake parts mistake)
          return 1
        | .ok script => sedRun a operands script) (spellInPlace arguments)

end Tool

end Retint.Shell
