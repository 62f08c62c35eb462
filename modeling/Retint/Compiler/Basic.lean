import Retint.Files.Access

/-!
# Compilers

A compiler turns the source of a sheet into plain CSS. It is a function of the files, the source and
the directories in which imports are looked for. It may also change files.

## Main definitions

* `Compiler` — what a compiler does, and what it announces before it starts
* `Compiler.byRules` — a compiler that answers by what the source contains
-/

namespace Retint

/-- A compiler of style sheets. -/
structure Compiler where
  /-- The result, and the files after it. -/
  compile : FileSystem → Text → List Path → Except Failure Text × FileSystem
  /-- What is logged before a compilation with these include paths. -/
  announce : List Path → Option Text := fun _ => none

namespace Compiler

/-- A rule: what a source must contain, and what it then compiles to. -/
structure Rule where
  needle : Text
  answer : Except Text Text

/-- The compiler that answers by the first rule whose needle is in the source. -/
def byRules (rules : List Rule) : Compiler where
  compile files source _ :=
    (match rules.find? fun r => Text.contains r.needle source with
      | some ⟨_, .ok css⟩ => .ok css
      | some ⟨_, .error report⟩ => .error (.compile report)
      | none => .error (.compile "no rule".toList), files)

end Compiler

end Retint
