import Retint.Dict
import Retint.Pattern.Sought
import Retint.Shade

/-!
# Probes and the colors they come to

To learn which color a variable or one of its shades comes to, a probe rule with that color is
compiled along with the variables, and the color is read off the compiled rule. The colors found
this way are then put back under their names wherever they occur in a stylesheet.

## Main definitions

* `Probe.Rule`, `Probe.rules`, `Probe.text` — the probe rules of the theme variables
* `ColorTable` — names with their colors, in the order of the compiled probes
* `ColorTable.ofCss` — the colors read off compiled probes
* `ColorTable.canFind` — whether a color can be looked for
* `ColorTable.substitute` — colors replaced by what they stand for

## Main results

* `Probe.textOf_cons` — each rule stands in front of those that were made before it
-/

namespace Retint

namespace Probe

/-- A rule that asks for one color: a class and the value of its `color` property. -/
structure Rule where
  selector : Text
  value : Text
deriving DecidableEq, Repr

/-- The probe of a variable. The class is the variable's name without its `@`. -/
def Rule.of (name value : Text) : Rule := ⟨Text.dropChar '@' name, value⟩

/-- The rule as it is written. -/
def Rule.text (r : Rule) : Text :=
  '.' :: r.selector ++ " \x7b color: ".toList ++ r.value ++ "; \x7d".toList

/-- The probes of the shades of a variable. -/
def shadeRules (base : Text) : List Rule :=
  Shade.indices.filterMap fun index =>
    (Shade.expression? (Shade.name base index)).map (Rule.of (Shade.name base index))

/-- The probes of the variables, the latest first: those of the shades of the last variable come
first, and the probe of the first variable's own color comes last. -/
def rules (selected : List (Text × Text)) : List Rule :=
  (selected.map (fun entry => Rule.of entry.1 entry.2) ++
    selected.flatMap fun entry => shadeRules entry.1).reverse

/-- The text of the rules, each on a line. -/
def textOf (rules : List Rule) : Text := rules.flatMap fun r => r.text ++ ['\n']

theorem textOf_cons (r : Rule) (rest : List Rule) :
    textOf (r :: rest) = r.text ++ '\n' :: textOf rest := by
  simp [textOf]

/-- The probe rules of the theme variables as text. -/
def text (selected : List (Text × Text)) : Text := textOf (rules selected)

end Probe

/-- Names with the colors they come to, in the order in which the names first came up. -/
abbrev ColorTable := Dict Text

namespace ColorTable

/-! ### Reading compiled probes -/

/-- A line without what is between its first and its last slash, and without these. -/
def stripLine (line : Text) : Text :=
  match Text.cut? '/' line with
  | none => line
  | some (before, rest) =>
    match Text.cutLast? '/' rest with
    | none => line
    | some (_, after) => before ++ after

/-- The text without comments and whatever else is between slashes on a line. -/
def stripComments (css : Text) : Text :=
  Text.joinWith ['\n'] ((Text.splitOn '\n' css).map stripLine)

/-- The characters of a probe's class. -/
def isClassChar (c : Char) : Bool := c.isAlphanum || c == '-' || c == '\''

/-- The compiled probe at the start of a text, in the compiler's layout: class, value up to the
last semicolon of its line, and how many characters the two cover together with what is around
them. -/
def probe? (t : Text) : Option (Text × Text × Nat) :=
  match t with
  | '.' :: rest =>
    let name := rest.takeWhile isClassChar
    if name.contains '-' || name.contains '\'' then
      let lead := " \x7b\n  color: ".toList
      match Text.dropLead? lead (rest.dropWhile isClassChar) with
      | some after =>
        (Text.cutLast? ';' (after.takeWhile (· != '\n'))).map fun (value, _) =>
          (name, value, 1 + name.length + lead.length + value.length + 1)
      | none => none
    else none
  | _ => none

/-- The compiled probes of a text from left to right; the first argument counts the characters of
the current one that are still to be skipped. -/
def probes : Nat → Text → List (Text × Text)
  | _, [] => []
  | skip + 1, _ :: rest => probes skip rest
  | 0, c :: rest =>
    match probe? (c :: rest) with
    | some (name, value, size) => (name, value) :: probes (size - 1) rest
    | none => probes 0 rest

/-- Whether a compiled value is a color that can be looked for. -/
def isConcrete (value : Text) : Bool :=
  Text.startsWith "#".toList value || Text.startsWith "rgba".toList value

/-- The colors read off compiled probes, under the names of their variables. -/
def ofCss (css : Text) : ColorTable :=
  (probes 0 (stripComments css)).foldl (fun table (name, value) =>
    let color := Text.trim value
    if isConcrete color then table.insert ('@' :: name) color else table) .empty

/-! ### Putting the names back -/

/-- What stands for the color of a name: the palette call of a shade, else the name. -/
def replacement (name : Text) : Text := (Shade.expression? name).getD name

/-- An occurrence of a color as a whole value at the start of a text: the color, spaces, and a
semicolon. The answer is the number of characters. -/
def occurrence? (color t : Text) : Option Nat :=
  match Text.dropLead? color t with
  | none => none
  | some rest =>
    match Text.dropChar ' ' rest with
    | ';' :: _ => some (color.length + (rest.takeWhile (· == ' ')).length + 1)
    | _ => none

/-- The pattern of such an occurrence. -/
def pattern (color : Text) : Pattern.Piece := .textThen color [.spaces, .char ';']

/-- Whether a color can be looked for. -/
def canFind (color : Text) : Bool := (pattern color).isUsable

/-- The text with one color replaced by what it stands for, if the color can be looked for. -/
def substituteOne (css : Text) (entry : Text × Text) : Text :=
  if canFind entry.2 then
    Text.replaceWith (fun t => (occurrence? entry.2 t).map fun size =>
      (replacement entry.1 ++ [';'], size)) css
  else css

/-- The text with all colors of the table replaced, one after the other in the table's order. -/
def substitute (table : ColorTable) (css : Text) : Text := table.entries.foldl substituteOne css

/-- What is said about the colors that cannot be looked for. -/
def remarks (table : ColorTable) : List Text :=
  (table.entries.filter fun entry => !canFind entry.2).map fun entry =>
    "Cannot substitute ".toList ++ entry.2 ++ " for ".toList ++ entry.1 ++ ": ".toList ++
      Pattern.Piece.refusal

end ColorTable

end Retint
