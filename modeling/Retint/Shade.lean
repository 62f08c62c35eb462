import Retint.Text
import Retint.Unicode.Class

/-!
# Palette shades

The component library derives the shades of a color with a palette function. A shade has a name
made of its variable's name and the shade's index, and stands for a call of that function.

## Main definitions

* `Shade.name` — the name of a shade of a variable
* `Shade.expression?` — the palette call that a shade's name stands for
* `Shade.indices` — the shades that are probed
-/

namespace Retint.Shade

/-- The variable that all shades of the primary palette belong to. -/
def primaryVariable : Text := "@primary-color".toList

/-- What the names of the shades of the primary variable start with. -/
def primaryLead : Text := "@primary".toList

/-- The palette indices that are probed for every theme variable. -/
def indices : List Nat := [1, 2, 3, 4, 5, 7]

/-- The name of a shade of a variable. -/
def name (base : Text) (index : Nat) : Text :=
  (if base = primaryVariable then primaryLead else base) ++ '-' :: Nat.toDigits 10 index

/-- The base and the index of a name that ends in a hyphen and one digit and is a single line. -/
def split? (name : Text) : Option (Text × Char) :=
  match name.reverse with
  | digit :: '-' :: base =>
    if Unicode.isDigit digit && !base.contains '\n' then some (base.reverse, digit) else none
  | _ => none

/-- Whether a name mentions a shade of the primary palette. -/
def isPrimary : Text → Bool
  | [] => false
  | c :: rest =>
    (match Text.dropLead? "primary-".toList (c :: rest) with
      | some (digit :: _) => Unicode.isDigit digit
      | _ => false) || isPrimary rest

/-- The palette call for a variable, given without its `@`. -/
def paletteCall (bareName : Text) (index : Char) : Text :=
  "color(~`colorPalette(\"@\x7b".toList ++ bareName ++ "\x7d\", ".toList ++ index :: ")`)".toList

/-- The palette call that a name stands for, if it is the name of a shade. Names of the primary
palette go to the primary variable, whatever they start with. -/
def expression? (name : Text) : Option Text :=
  (split? name).map fun (base, index) =>
    paletteCall (Text.dropChar '@' (if isPrimary name then primaryVariable else base)) index

end Retint.Shade
