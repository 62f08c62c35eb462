import Retint.Pattern.Piece

/-!
# Patterns made of a text

A text can be looked for together with spaces or the rest of a line after it. The pattern for this
is put together here and not written by anybody, and the characters of the text stand for
themselves in it. It is measured like a written one, so a text can be too long to be looked for.

## Main definitions

* `Pattern.Piece.char`, `Pattern.Piece.spaces`, `Pattern.Piece.inLine` — the parts
* `Pattern.Piece.textThen` — a text with more parts after it
* `Pattern.Piece.refusal` — what is said of a pattern that is too large
-/

namespace Retint.Pattern.Piece

/-- A character that stands for itself. The memory for a single character is known beforehand, so no
set is brought into order to find it. -/
def char (c : Char) : Piece :=
  { oneOf (.single c) 0 with size := stateSize * c.utf8Size }

/-- The characters that are not line feeds. -/
def lineSet : CharSet := ⟨[(0, 9), (11, CharSet.lastCode)]⟩

/-- Any number of spaces. -/
def spaces : Piece := (char ' ').repeated 0 none

/-- Any number of characters of a line. -/
def inLine : Piece :=
  { oneOf lineSet 0 with size := CharSet.machineSize.several lineSet.ranges }.repeated 0 none

/-- A text with more parts after it. -/
def textThen (t : Text) (more : List Piece) : Piece := row (t.map char ++ more)

/-- What is said of a pattern that is too large. -/
def refusal : Text :=
  "Compiled regex exceeds size limit of ".toList ++ Nat.toDigits 10 sizeLimit ++ " bytes.".toList

end Retint.Pattern.Piece
