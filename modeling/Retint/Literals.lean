import Retint.Dict

/-!
# Declarations taken literally

Reads every `@name: value` of a sheet as it is written, wherever it stands: no alias is followed
and no value is judged.

## Main definitions

* `Literals.find?` — the extent of the occurrence that starts with an `@`
* `Literals.ofText` — the names of a sheet with their values
-/

namespace Retint.Literals

/-- The text after an `@` that belongs to its declaration: up to the last colon of the line, and
from there up to the next semicolon, which may be lines away. Without a colon on the line there is
no declaration. -/
def extent? (rest : Text) : Option Text :=
  let line := rest.takeWhile (· != '\n')
  (Text.cutLast? ':' line).map fun (lead, _) =>
    lead ++ ':' :: (rest.drop (lead.length + 1)).takeWhile (· != ';')

/-- The declarations of a sheet, each without its `@`; the first argument counts the characters of
the current one that are still to be skipped. -/
def extents : Nat → Text → List Text
  | _, [] => []
  | skip + 1, _ :: rest => extents skip rest
  | 0, c :: rest =>
    if c = '@' then
      match extent? rest with
      | some body => body :: extents body.length rest
      | none => extents 0 rest
    else extents 0 rest

/-- The parts of a text between its colons, without the white space after each colon. -/
def parts (t : Text) : List Text :=
  match Text.splitOn ':' t with
  | [] => []
  | first :: more => first :: more.map Text.trimStart

/-- A name and a value: the first part without quotes, and the other parts put together again. -/
def entry (body : Text) : Text × Text :=
  match parts ('@' :: body) with
  | [] => ([], [])
  | name :: more =>
    (Text.trim (name.filter fun c => c != '\'' && c != '"'), Text.joinWith [':'] more)

/-- The variables of a sheet as written; of two with one name the later stands. -/
def ofText (sheet : Text) : Dict Text := Dict.ofList ((extents 0 sheet).map entry)

end Retint.Literals
