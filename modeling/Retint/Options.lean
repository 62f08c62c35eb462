import Retint.Color
import Retint.Path

/-!
# Options of a theme

What a theme is generated from and where it goes, checked and complete.

## Main definitions

* `ColorPattern` — a pattern of the user for values that count as colors
* `Options` — the options of a theme
* `Options.of` — the options for a library and a directory, all else by default
-/

namespace Retint

/-- A pattern, with the text that it was read from. -/
structure ColorPattern where
  source : Text
  pattern : Pattern

/-- Where things are in the component library. -/
def Library.styleDir : Path := .ofString "style"

def Library.entryFile : Path := .ofString "index.less"

def Library.defaultVariables : Path := .ofString "style/themes/default.less"

/-- Where the styles are in an installed library. -/
def Library.compiledDir : Path := .ofString "lib"

/-- The options of a theme. -/
structure Options where
  libraryDir : Path
  stylesDir : Path
  mainFile : Option Path
  variableFile : Path
  outputFile : Option Path
  cssModules : Bool
  themeVariables : List Text
  colorPatterns : List ColorPattern

namespace Options

/-- The variables that a theme offers if nothing else is said. -/
def defaultVariables : List Text := ["@primary-color".toList]

/-- The options for a library and a directory of styles, all else by default. -/
def of (libraryDir stylesDir : Path) : Options where
  libraryDir := libraryDir
  stylesDir := stylesDir
  mainFile := none
  variableFile := libraryDir.join Library.defaultVariables
  outputFile := none
  cssModules := false
  themeVariables := defaultVariables
  colorPatterns := []

/-- Whether a value is a color under the options. -/
def isColor (options : Options) (value : Text) : Bool :=
  Color.isColor (options.colorPatterns.map fun p t => p.pattern.isFound t) value

end Options

end Retint
