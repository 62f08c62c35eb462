import Retint.Text

/-!
# Declarations on a line

A variable file declares one variable on a line, `@name: value;`. Only names that contain a hyphen
or a quote are of interest to a theme.

## Main definitions

* `Declaration.ofLine?` — the declaration on a line, if the line is read as one

## Main results

* `Declaration.name_of_ofLine?` — a declared name starts with `@`
-/

namespace Retint

/-- A variable, its name starting with `@`, and the value written for it. -/
structure Declaration where
  name : Text
  value : Text
deriving DecidableEq, Repr

namespace Declaration

/-- The characters of a declared name after its `@`. -/
def isNameChar (c : Char) : Bool := c.isAlphanum || c == '-' || c == '\''

/-- Reads a line as a declaration. The name is the longest row of name characters after `@`;
whatever stands between it and the first colon is passed over. After the colon there must be white
space. The value reaches to the last semicolon of the line and is trimmed. -/
def ofLine? (line : Text) : Option Declaration :=
  match line with
  | '@' :: rest =>
    let name := rest.takeWhile isNameChar
    if name.contains '-' || name.contains '\'' then
      match Text.cut? ':' (rest.dropWhile isNameChar) with
      | some (_, blank :: after) =>
        if Text.isBlank blank then
          (Text.cutLast? ';' after).map fun (value, _) => ⟨'@' :: name, Text.trim value⟩
        else none
      | _ => none
    else none
  | _ => none

theorem name_of_ofLine? {line : Text} {d : Declaration} (h : ofLine? line = some d) :
    d.name.head? = some '@' := by
  unfold ofLine? at h
  split at h
  · simp only at h
    split at h
    · split at h
      · split at h
        · simp only [Option.map_eq_some_iff] at h
          obtain ⟨-, -, rfl⟩ := h
          rfl
        · cases h
      · cases h
    · cases h
  · cases h

end Declaration

end Retint
