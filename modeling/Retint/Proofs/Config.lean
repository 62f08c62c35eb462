import Retint.Config.Basic
import Retint.Proofs.Path

/-!
# Configurations seen from a directory

The relative paths of a configuration are seen from the directory of its file, and paths that it
leaves out are derived from others when it is checked. It does not matter which of the two comes
first: checking a configuration makes the same of it, be its paths spelled out before or after. For
a derived path is one that is seen from another one.

## Main definitions

* `Options.relativeTo` — the options with their relative paths seen from a directory

## Main results

* `Config.librarySource_relativeTo` — where the styles of the library are
* `Config.validate_relativeTo` — the headline
-/

namespace Retint

/-- The options with their relative paths seen from a directory. -/
def Options.relativeTo (base : Path) (options : Options) : Options :=
  { options with
    libraryDir := base.join options.libraryDir
    stylesDir := base.join options.stylesDir
    mainFile := options.mainFile.map base.join
    variableFile := base.join options.variableFile
    outputFile := options.outputFile.map base.join }

namespace Config

/-- The directory of the library is given or derived; either way it is seen from the directory. -/
theorem librarySource_relativeTo (c : Config) (base : Path) :
    (c.relativeTo base).librarySource = c.librarySource.map base.join := by
  unfold librarySource relativeTo
  cases c.libraryDir with
  | some dir => rfl
  | none =>
    cases c.installDir with
    | none => rfl
    | some dir => exact congrArg some (Path.join_assoc base dir Library.compiledDir)

/-- So is the variable file, which is derived from the directory of the library. -/
theorem variableFile_relativeTo (file : Option Path) (base libraryDir : Path) :
    (file.map base.join).getD ((base.join libraryDir).join Library.defaultVariables) =
      base.join (file.getD (libraryDir.join Library.defaultVariables)) := by
  cases file with
  | some file => rfl
  | none => exact Path.join_assoc base libraryDir Library.defaultVariables

/-- **Checking a configuration seen from a directory** fails as checking the configuration does, and
gives its options, seen from the directory. -/
theorem validate_relativeTo (c : Config) (base : Path) :
    (c.relativeTo base).validate = c.validate.map (Options.relativeTo base) := by
  unfold validate
  rw [librarySource_relativeTo]
  cases c.librarySource with
  | none => rfl
  | some libraryDir =>
    simp only [Option.map_some, relativeTo, variableFile_relativeTo]
    cases c.themeVariables.isEmpty with
    | true => rfl
    | false =>
      cases c.themeVariables.find? fun name => name.head? != some '@' with
      | some name => rfl
      | none => cases readPatterns c.colorPatterns <;> rfl

end Config

end Retint
