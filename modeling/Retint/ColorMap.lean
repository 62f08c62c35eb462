import Retint.Color
import Retint.Declaration
import Retint.Dict
import Retint.Failure

/-!
# Color maps

A variable can be declared as the alias of another one. The color map of a variable text sends
each name to the color that its declaration comes to, seen from where it stands: aliases are
followed through the declarations on earlier lines.

## Main definitions

* `Alias.resolve` — the value at the end of an alias chain
* `ColorMap.ofText` — the colors that a variable text declares
* `ColorMap.remarks` — what is said about declarations that come to nothing

## Implementation notes

A chain meets every declared name at most once before it ends, so `Alias.resolve` allows as many
steps as there are declarations and one more.
-/

namespace Retint

namespace Alias

/-- Whether a value stands for another variable. -/
def isAlias (value : Text) : Bool := value.head? == some '@'

/-- Follows a chain that has come to `current` by way of `visited`, the latest name first. -/
def follow (declarations : Dict Text) : Nat → List Text → Text → Except Failure Text
  | 0, visited, current => .error (.cyclicAlias (current :: visited).reverse)
  | fuel + 1, visited, current =>
    if visited.contains current then .error (.cyclicAlias (current :: visited).reverse)
    else
      match declarations.get? current with
      | none => .error (.undeclared current)
      | some value =>
        if isAlias value then follow declarations fuel (current :: visited) value else .ok value

/-- The value that the name stands for in the end: the first of the chain that is no alias. -/
def resolve (declarations : Dict Text) (name : Text) : Except Failure Text :=
  follow declarations (declarations.size + 1) [] name

end Alias

/-- Variable names with the colors they stand for. -/
abbrev ColorMap := Dict Text

namespace ColorMap

/-- Whether a line could hold a declaration: it starts with `@` and has a colon. -/
def isCandidate (line : Text) : Bool := line.head? = some '@' && ':' ∈ line

/-- The raw declarations and the colors read so far, and what has been passed over, the latest
first. -/
structure Scan where
  declared : Dict Text := .empty
  colors : ColorMap := .empty
  remarks : List Text := []

/-- The color that a declaration comes to, or what is said if its alias leads nowhere. -/
def Scan.resolve (s : Scan) (d : Declaration) : Except Failure Text :=
  if Alias.isAlias d.value then Alias.resolve s.declared d.value else .ok d.value

/-- Reads one declaration. One that comes to no color leaves the colors alone, but later aliases
see it. -/
def Scan.declaration (isColor : Text → Bool) (s : Scan) (d : Declaration) : Scan :=
  let declared := s.declared.insert d.name d.value
  match s.resolve d with
  | .ok color =>
    { s with
      declared := declared
      colors := if isColor color then s.colors.insert d.name color else s.colors }
  | .error f =>
    { s with
      declared := declared
      remarks := ("Skipping ".toList ++ d.name ++ ": ".toList ++ f.message) :: s.remarks }

/-- Reads one line. -/
def Scan.line (isColor : Text → Bool) (s : Scan) (line : Text) : Scan :=
  if isCandidate line then
    match Declaration.ofLine? line with
    | some d => s.declaration isColor d
    | none =>
      { s with remarks := ("Skipping unrecognized declaration: ".toList ++ line) :: s.remarks }
  else s

/-- Reads a variable text. -/
def scan (isColor : Text → Bool) (content : Text) : Scan :=
  (Text.lines content).foldl (Scan.line isColor) {}

/-- The colors that a variable text declares. -/
def ofText (isColor : Text → Bool) (content : Text) : ColorMap := (scan isColor content).colors

/-- What is said about the declarations that a variable text holds in vain. -/
def remarks (isColor : Text → Bool) (content : Text) : List Text :=
  (scan isColor content).remarks.reverse

end ColorMap

end Retint
