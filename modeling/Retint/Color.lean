import Retint.Pattern.Search
import Retint.Unicode.Class
import Retint.Unicode.Fold

/-!
# Color values

Which values of a declaration the theme can offer as a color. The question is about the spelling
alone: no value is converted.

## Main definitions

* `Color.isHex` — the digits after `#`
* `Color.functional` — the notations `rgb`, `hsl` and `hsv`, with or without alpha
* `Color.isColor` — whether a value is a color, given extra tests by the user
-/

namespace Retint.Color

def isHexDigit (c : Char) : Bool :=
  ('0' ≤ c && c ≤ '9') || ('a' ≤ c && c ≤ 'f') || ('A' ≤ c && c ≤ 'F')

/-- Three, four, six or eight hexadecimal digits. -/
def isHex (digits : Text) : Bool :=
  [3, 4, 6, 8].contains digits.length && digits.all isHexDigit

/-! ### Functional notation -/

/-- A letter up to case. -/
def letter (c : Char) : Pattern := .one fun d => Unicode.fold d == c

def name (t : Text) : Pattern := .seqs (t.map letter)

/-- One of the names, given in lower case. -/
def oneOf (names : List String) : Pattern := .alts (names.map fun n => name n.toList)

def digits : Pattern := .some₁ (.one Unicode.isDigit)

/-- A component and the commas or white space that must follow it. -/
def component : Pattern :=
  .seqs [digits, .opt (.char '%'), .opt (oneOf ["deg", "rad", "grad", "turn"]),
    .some₁ (.one fun c => c == ',' || Text.isBlank c)]

/-- `rgb`, `hsl` or `hsv`, perhaps with an `a`; two or three components; white space or slashes;
and a last number, perhaps a percentage. -/
def functional : Pattern :=
  .seqs [.atStart, oneOf ["rgb", "hsl", "hsv"], .opt (letter 'a'), .char '(',
    .rep component 2 (some 3), .many (.one fun c => c == '/' || Text.isBlank c),
    .some₁ (.one fun c => c == '.' || Unicode.isDigit c), .opt (.char '%'), .char ')', .atEnd]

/-! ### Color values -/

/-- A value that mentions this length unit is a size, not a color. -/
def lengthUnit : Text := "px".toList

/-- Calls that the compiler turns into a color. -/
def colorCalls : List Text := ["colorPalette".toList, "fade".toList]

/-- Whether a value is a color. What starts with `#` is judged by its digits alone; the extra
tests are asked last. -/
def isColor (extra : List (Text → Bool)) (value : Text) : Bool :=
  if value.isEmpty || Text.contains lengthUnit value then false
  else if colorCalls.any (Text.contains · value) then true
  else
    match value with
    | '#' :: digits => isHex digits
    | value => functional.isFound value || extra.any (· value)

end Retint.Color
