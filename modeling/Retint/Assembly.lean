import Retint.Pattern.Sought

/-!
# Assembling the theme

The generated theme leads with a fresh declaration of every theme variable, followed by the
variable text and the reduced stylesheet, from which older declarations of these variables are
cut out.

## Main definitions

* `Assembly.canStrip` — whether the declarations of a variable can be looked for
* `Assembly.strip` — a text without the declarations of a variable
* `Assembly.theme` — the generated theme
-/

namespace Retint.Assembly

/-- The number of characters that a declaration of `name` at the start of a text takes: the name,
spaces, a colon, and whatever reaches to the last semicolon of the line. -/
def declaration? (name t : Text) : Option Nat :=
  match Text.dropLead? name t with
  | none => none
  | some rest =>
    match Text.dropChar ' ' rest with
    | ':' :: after =>
      (Text.cutLast? ';' (after.takeWhile (· != '\n'))).map fun (value, _) =>
        name.length + (rest.takeWhile (· == ' ')).length + 1 + value.length + 1
    | _ => none

/-- The pattern of such a declaration. -/
def pattern (name : Text) : Pattern.Piece :=
  .textThen name [.group true .spaces, .char ':', .group true .inLine, .char ';']

/-- Whether the declarations of a name can be looked for. -/
def canStrip (name : Text) : Bool := (pattern name).isUsable

/-- The text without the declarations of `name`, if these can be looked for. -/
def strip (name t : Text) : Text :=
  if canStrip name then
    Text.replaceWith (fun t => (declaration? name t).map fun size => ([], size)) t
  else t

/-- The text led by a fresh declaration of a variable, in the place of the older ones. -/
def lead (entry : Text × Text) (t : Text) : Text :=
  entry.1 ++ ": ".toList ++ entry.2 ++ ";\n".toList ++ strip entry.1 t ++ ['\n']

/-- The mark that hides a declaration from all but old browsers. -/
def hackToken : Text := "\\9".toList

/-- The theme made of a reduced stylesheet, the text of the variable file and the variables that
the theme offers, with their colors. -/
def theme (css variableText : Text) (selected : List (Text × Text)) : Text :=
  Text.replace hackToken [] (selected.foldr lead (variableText ++ '\n' :: css))

/-- What is said about the variables whose declarations cannot be looked for, from the last one
on. -/
def remarks (selected : List (Text × Text)) : List Text :=
  (selected.reverse.filter fun entry => !canStrip entry.1).map fun entry =>
    "Cannot strip existing declarations of ".toList ++ entry.1 ++ ": ".toList ++
      Pattern.Piece.refusal

end Retint.Assembly
