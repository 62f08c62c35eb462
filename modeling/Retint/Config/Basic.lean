import Retint.Compiler.Script
import Retint.Options
import Retint.Pattern.Reader

/-!
# Configuration

What a user writes down: some paths, the theme variables, patterns for colors, and how to run the
compiler. Checking a configuration fills in what is left out and reads the patterns; the result are
the options of a theme.

## Main definitions

* `Config` — what is written down
* `Config.relativeTo` — the configuration with its relative paths seen from a directory
* `Config.validate` — the options of a configuration, or what is wrong with it
-/

namespace Retint

/-- A configuration as it is written down. -/
structure Config where
  /-- Where the component library is installed. -/
  installDir : Option Path := none
  /-- Where the styles of the library are, if not in the installed library. -/
  libraryDir : Option Path := none
  stylesDir : Path
  mainFile : Option Path := none
  variableFile : Option Path := none
  outputFile : Option Path := none
  cssModules : Bool := false
  themeVariables : List Text := Options.defaultVariables
  colorPatterns : List Text := []
  compilerPath : Path := .ofString "lessc"
  importPrefix : Text := ['~']
  logFile : Option Path := none
deriving DecidableEq, Repr

namespace Config

/-- The configuration with its relative paths seen from a directory. How the compiler is called
stays as it is. -/
def relativeTo (c : Config) (base : Path) : Config :=
  { c with
    installDir := c.installDir.map base.join
    libraryDir := c.libraryDir.map base.join
    stylesDir := base.join c.stylesDir
    mainFile := c.mainFile.map base.join
    variableFile := c.variableFile.map base.join
    outputFile := c.outputFile.map base.join
    logFile := c.logFile.map base.join }

/-- The compiler that the configuration asks for. -/
def compiler (c : Config) : ScriptCompiler := ⟨c.compilerPath, c.importPrefix⟩

/-- Where the styles of the library are. -/
def librarySource (c : Config) : Option Path :=
  match c.libraryDir, c.installDir with
  | some dir, _ => some dir
  | none, some dir => some (dir.join Library.compiledDir)
  | none, none => none

/-- Reads the patterns; the first that cannot be read is the failure. -/
def readPatterns : List Text → Except Failure (List ColorPattern)
  | [] => .ok []
  | source :: rest =>
    match Pattern.read? source with
    | none => .error (.pattern source)
    | some p =>
      match readPatterns rest with
      | .ok ps => .ok (⟨source, p⟩ :: ps)
      | .error f => .error f

/-- The options of a configuration, or the first thing that is wrong with it. -/
def validate (c : Config) : Except Failure Options :=
  match c.librarySource with
  | none => .error (.config "either antd_dir or antd_styles_dir must be set".toList)
  | some libraryDir =>
    if c.themeVariables.isEmpty then
      .error (.config "theme_variables must name at least one variable".toList)
    else
      match c.themeVariables.find? fun name => name.head? != some '@' with
      | some name =>
        .error (.config ("theme variable '".toList ++ name ++ "' must start with '@'".toList))
      | none =>
        match readPatterns c.colorPatterns with
        | .error f => .error f
        | .ok patterns =>
          .ok {
            libraryDir := libraryDir
            stylesDir := c.stylesDir
            mainFile := c.mainFile
            variableFile := c.variableFile.getD (libraryDir.join Library.defaultVariables)
            outputFile := c.outputFile
            cssModules := c.cssModules
            themeVariables := c.themeVariables
            colorPatterns := patterns }

end Config

end Retint
