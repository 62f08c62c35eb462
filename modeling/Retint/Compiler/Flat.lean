import Retint.Compiler.Basic
import Retint.Import
import Retint.Unicode.Class

/-!
# A compiler for flat sheets

A small part of the language, enough to compile sheets without nesting: imports, declarations of
variables that take a line each, references to variables, palette calls, and rules without rules
in them.

## Main definitions

* `Flat.inlineImports` — a source with its imports put in their places
* `Flat.replacePalettes` — palette calls as colors
* `Flat.declaration?`, `Flat.Program` — the variables of a source, and its other lines
* `Flat.evaluate` — a value with its variables replaced
* `Flat.rules`, `Flat.Rule.css` — the rules of a source, and how they are written
* `Flat.compile`, `Flat.compiler`
-/

namespace Retint.Flat

/-! ### Imports -/

/-- An import at the start of a line, alone on its lines; white space after the keyword and the
target may go over several lines. -/
def statement? (t : Text) : Option (Text × Nat) := do
  let rest ← Import.keyword? t
  if rest.head?.any Text.isBlank then
    let (target, rest) ← Import.target? (Text.trimStart rest)
    let after ← Import.lineEnd? rest
    some (target, t.length - after.length)
  else none

/-- The file that an import means: an absolute path as it is, else the first that is there under
one of the include paths, as it is or with the extension. -/
def find? (fs : FileSystem) (includes : List Path) (target : Text) : Option Path :=
  let direct : Path := ⟨target⟩
  if direct.isAbsolute && fs.isFile direct then some direct
  else
    (includes.flatMap fun base =>
      let path := base.join direct
      [path, path.append ('.' :: Import.extension)]).find? fs.isFile

/-- How deep imports may be nested, the source itself counted. -/
def importDepth : Nat := 9

/-- Puts the pieces of a source together, given what an import contributes. -/
def assemble (inline : Text → Except Failure Text) : List Import.Piece → Except Failure Text
  | [] => .ok []
  | .verbatim t :: rest => (assemble inline rest).map (t ++ ·)
  | .statement _ target :: rest =>
    match inline target with
    | .ok t => (assemble inline rest).map (t ++ ·)
    | .error f => .error f

/-- The source with its imports put in their places, which may be nested so deep. -/
def inlineImports (fs : FileSystem) (includes : List Path) : Nat → Text → Except Failure Text
  | 0, _ => .error (.compile "Imports nested too deeply".toList)
  | depth + 1, source =>
    assemble (fun target =>
      match find? fs includes target with
      | none => .error (.compile ('\'' :: target ++ "' wasn't found".toList))
      | some path =>
        match fs.readText path with
        | .error f =>
          .error (.compile ("Failed to read ".toList ++ path.text ++ ": ".toList ++ f.message))
        | .ok content => inlineImports fs includes depth content)
      (Import.piecesFrom statement? true 0 source)

/-! ### Palette calls -/

/-- A palette call at the start of a text: the digits of its index, and its length. -/
def paletteCall? (t : Text) : Option (Text × Nat) := do
  let lead := "color(~`colorPalette(\"@\x7b".toList
  let middle := "\x7d\", ".toList
  let tail := ")`)".toList
  let rest ← Text.dropLead? lead t
  let name := rest.takeWhile (· != '\x7d')
  let rest ← Text.dropLead? middle (rest.drop name.length)
  let digits := rest.takeWhile Unicode.isDigit
  if digits.isEmpty then none
  else
    let _ ← Text.dropLead? tail (rest.drop digits.length)
    some (digits, lead.length + name.length + middle.length + digits.length + tail.length)

/-- The color that a palette call with an index stands for here. -/
def paletteColor (digits : Text) : Text :=
  "#0".toList ++ digits ++ '0' :: digits ++ '0' :: digits

def replacePalettes (source : Text) : Text :=
  Text.replaceWith (fun t => (paletteCall? t).map fun (digits, n) => (paletteColor digits, n))
    source

/-! ### Variables -/

def isNameChar (c : Char) : Bool := Unicode.isWord c || c == '-'

/-- A name after its sign at the start of a text, with the sign, and the text after it. -/
def name? : Text → Option (Text × Text)
  | '@' :: rest =>
    match rest.takeWhile isNameChar with
    | [] => none
    | name => some ('@' :: name, rest.dropWhile isNameChar)
  | _ => none

/-- The declaration that a line consists of. The value ends before the last semicolon, after which
only white space may come. A value of white space alone is its last character. -/
def declaration? (line : Text) : Option (Text × Text) := do
  let (name, rest) ← name? (Text.trimStart line)
  let after ← Text.dropLead? [':'] (Text.trimStart rest)
  match (Text.trimEnd after).reverse with
  | ';' :: value =>
    match Text.trimStart value.reverse with
    | [] => value.head?.map fun c => (name, [c])
    | value => some (name, value)
  | _ => none

/-- What a line is. -/
inductive Line
  | comment
  | declaration (name value : Text)
  /-- Part of a rule. -/
  | plain (text : Text)
deriving DecidableEq, Repr

def Line.of (text : Text) : Line :=
  if Text.startsWith "//".toList (Text.trimStart text) then .comment
  else
    match declaration? text with
    | some (name, value) => .declaration name value
    | none => .plain text

/-- The variable that a line declares, with its value. -/
def Line.declared? : Line → Option (Text × Text)
  | .declaration name value => some (name, value)
  | _ => none

/-- What a line contributes to the rules. -/
def Line.body : Line → Text
  | .plain text => text ++ ['\n']
  | _ => []

/-- A source after reading its lines: variables with their values, and the other lines. -/
structure Program where
  declared : Dict Text
  body : Text

/-- Reads the lines of a source. Of two values of a variable the later one counts. -/
def Program.of (source : Text) : Program :=
  let lines := (Text.lines source).map Line.of
  ⟨Dict.ofList (lines.filterMap Line.declared?), lines.flatMap Line.body⟩

/-- A value with each reference to a variable replaced by what the variable is declared as. -/
def replaceReferences (declared : Dict Text) (value : Text) : Text :=
  Text.replaceWith (fun t => (name? t).map fun (name, _) =>
    ((declared.get? name).getD name, name.length)) value

/-- Replaces references again and again until nothing changes, at most so many times. -/
def evaluateFor (declared : Dict Text) : Nat → Text → Text
  | 0, value => value
  | n + 1, value =>
    let next := replaceReferences declared value
    if next = value then value else evaluateFor declared n next

/-- A value with its variables replaced. -/
def evaluate (declared : Dict Text) (value : Text) : Text := evaluateFor declared 16 value

/-! ### Rules -/

/-- A rule: a selector and what is between its braces. -/
structure Rule where
  selector : Text
  content : Text
deriving DecidableEq, Repr

/-- What is read of a rule: nothing, its selector, or also the start of its content. -/
inductive Open
  | outside (selector : Text)
  | inside (selector content : Text)

/-- The rules of a text, where a rule is text without braces followed by text without braces in
braces. The characters read so far are held in reverse. A second opening brace starts over with
the content as the selector. -/
def rulesFrom : Open → Text → List Rule
  | _, [] => []
  | .outside selector, c :: rest =>
    if c = '\x7b' then
      if selector.isEmpty then rulesFrom (.outside []) rest
      else rulesFrom (.inside selector []) rest
    else if c = '\x7d' then rulesFrom (.outside []) rest
    else rulesFrom (.outside (c :: selector)) rest
  | .inside selector content, c :: rest =>
    if c = '\x7d' then ⟨selector.reverse, content.reverse⟩ :: rulesFrom (.outside []) rest
    else if c = '\x7b' then
      if content.isEmpty then rulesFrom (.outside []) rest
      else rulesFrom (.inside content []) rest
    else rulesFrom (.inside selector (c :: content)) rest

def rules (body : Text) : List Rule := rulesFrom (.outside []) body

/-- The properties of a rule with their values; a part without a colon is a failure. -/
def Rule.properties (r : Rule) : Except Failure (List (Text × Text)) :=
  (((Text.splitOn ';' r.content).map Text.trim).filter fun part => !part.isEmpty).mapM fun part =>
    match Text.cut? ':' part with
    | some (property, value) => .ok (Text.trim property, Text.trim value)
    | none =>
      .error (.compile ("Unrecognised declaration '".toList ++ part ++ "'".toList))

/-- One property as it is written. -/
def propertyLine (property value : Text) : Text :=
  "  ".toList ++ property ++ ": ".toList ++ value ++ ";\n".toList

/-- The rule as it is written: each property on a line, its value evaluated. -/
def Rule.css (declared : Dict Text) (r : Rule) : Except Failure Text :=
  r.properties.map fun properties =>
    Text.trim r.selector ++ " \x7b\n".toList ++
      (properties.flatMap fun (property, value) =>
        propertyLine property (evaluate declared value)) ++ "\x7d\n".toList

/-! ### Compiling -/

/-- Compiles a source whose imports are in their places. -/
def compileInlined (source : Text) : Except Failure Text :=
  if source.count '\x7b' ≠ source.count '\x7d' then
    .error (.compile "Unrecognised input. Possibly missing something".toList)
  else
    let program := Program.of (replacePalettes source)
    ((rules program.body).mapM (Rule.css program.declared)).map List.flatten

/-- Compiles a source, with imports looked for in the include paths. -/
def compile (fs : FileSystem) (source : Text) (includes : List Path) : Except Failure Text :=
  match inlineImports fs includes importDepth source with
  | .ok source => compileInlined source
  | .error f => .error f

def compiler : Compiler where
  compile files source includes := (compile files source includes, files)

end Retint.Flat
