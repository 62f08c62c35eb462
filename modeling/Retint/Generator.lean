import Retint.Assembly
import Retint.Bundle
import Retint.ColorMap
import Retint.ColorTable
import Retint.CustomStyles
import Retint.Digest
import Retint.Options
import Retint.Sheet.Reduction

/-!
# Generating a theme

The stages of the generation, one after the other: the sources are loaded; if they are those of
the last run, its theme is returned. Else the variables are mapped to colors, each theme variable
and each of its shades is probed, the styles are compiled, reduced to colors, and the probed colors
are replaced by what they stand for. The result is written and remembered. A stage that fails ends
the generation there.

## Main definitions

* `Generator.load` — the sources of the library and the user
* `Generator.select` — the theme variables that have a color
* `Generator.generate` — the whole generation
-/

namespace Retint.Generator

open Stage

/-! ### Loading -/

/-- What is read at first: everything that is compiled, and the user's own file again. -/
structure Sources where
  content : Text
  custom : Option Text

/-- The entry file of a directory's styles. -/
def entryOf (dir : Path) : Path := (dir.join Library.styleDir).join Library.entryFile

/-- The entry files of the library's components, in the order of their names. -/
def componentEntries (names : List Text) (libraryDir : Path) : Action (List Path) :=
  match names with
  | [] => pure []
  | name :: rest => do
    let entry := entryOf (libraryDir.join ⟨name⟩)
    let isFile ← Action.request (.isFile entry)
    let more ← componentEntries rest libraryDir
    return if isFile then entry :: more else more

/-- The statement that imports a component's styles. Backslashes in its path become slashes. -/
def importLine (entry : Path) : Text :=
  "@import \"".toList ++ Text.replaceChar '\\' '/' entry.text ++ "\";\n".toList

def load (options : Options) : Stage Sources := do
  let entry := entryOf options.libraryDir
  let library ← orFail ("Failed to read library entry ".toList ++ entry.text)
    (Action.request (.readText entry))
  let names ← orFail ("Failed to read ".toList ++ options.libraryDir.text)
    (Action.request (.list options.libraryDir))
  let components ← of (componentEntries (names.mergeSort Text.le) options.libraryDir)
  let content := library ++ '\n' :: components.flatMap importLine
  match options.mainFile with
  | none => return ⟨content, none⟩
  | some path =>
    let custom ← orFail ("Failed to read ".toList ++ path.text)
      (Action.request (.readText path))
    return ⟨content ++ '\n' :: custom, some custom⟩

/-! ### Variables -/

/-- The files of a bundle, read by requests. -/
def diskSource : Bundle.Source Action where
  canonical p := Action.request (.canonical p)
  read p := Action.request (.readText p)
  skip p := Action.log .debug ("Already inlined ".toList ++ p.text ++ ", skipping".toList)

/-- The theme variables that have a color, with it, in the order of the options. -/
def select (names : List Text) (colors : ColorMap) : List (Text × Text) :=
  names.filterMap fun name => (colors.get? name).map fun color => (name, color)

/-- The colors of the library's variables, overridden by those of the user's own file. -/
def colorMap (options : Options) (variableText : Text) (custom : Option Text) : ColorMap :=
  let library := ColorMap.ofText options.isColor variableText
  match custom with
  | none => library
  | some custom => library.merge (ColorMap.ofText options.isColor custom)

/-! ### Output -/

/-- Writes the theme, after creating the directory for it. -/
def write (path : Path) (theme : Text) : Stage Unit := do
  match path.parent? with
  | none => pure ()
  | some dir =>
    if dir.text ≠ [] then
      orFail ("Failed to create ".toList ++ dir.text) (Action.request (.createDirs dir))
  orFail ("Failed to write ".toList ++ path.text) (Action.request (.writeText path theme))

/-- What is said when a theme has been generated. -/
def successMessage : Option Path → Text
  | some path => "Theme generated successfully. OutputFile: ".toList ++ path.text
  | none => "Theme generated successfully".toList

/-! ### The generation -/

/-- Logs each of the messages. -/
def logAll (level : Level) : List Text → Action Unit
  | [] => pure ()
  | message :: rest => do
    Action.log level message
    logAll level rest

/-- What is said about a stray part of a stylesheet. -/
def strayMessage (stray : Nat × Text) : Text :=
  "Dropping unparsable CSS at line ".toList ++ Nat.toDigits 10 stray.1 ++ ": ".toList ++ stray.2

/-- The theme made of the sources, without regard to what has been remembered. -/
def produce (importLimit : Nat) (options : Options) (sources : Sources) : Stage Text := do
  let variableText ← ExceptT.mk
    (Bundle.bundle diskSource importLimit options.variableFile : Action (Except Failure Text))
  of (logAll .debug ((variableText :: sources.custom.toList).flatMap
    (ColorMap.remarks options.isColor)))
  let colors := colorMap options variableText sources.custom
  of (Action.log .debug
    ("Mapped ".toList ++ Nat.toDigits 10 colors.size ++ " color variables".toList))
  let selected := select options.themeVariables colors
  if selected.length < options.themeVariables.length then
    of (Action.log .warn ("Ignoring theme variables without a color value: ".toList ++
      quotedList (options.themeVariables.filter fun name => !colors.contains name)))
  let includes := [options.libraryDir.join Library.styleDir, options.stylesDir]
  let probeCss ← ExceptT.mk (Action.request
    (.compile (variableText ++ '\n' :: Probe.text selected) includes))
  let table := ColorTable.ofCss probeCss
  of (Action.log .debug
    ("Recovered ".toList ++ Nat.toDigits 10 table.size ++ " compiled probe colors".toList))
  let (libraryCss, customCss) ← of (Action.both
    (Action.request (.compile (sources.content ++ '\n' :: variableText) includes))
    (CustomStyles.compile options.stylesDir options.libraryDir))
  let css := customCss ++ '\n' :: (← ExceptT.mk (pure libraryCss))
  of (logAll .warn ((Sheet.strayText css).map strayMessage ++ table.remarks ++
    Assembly.remarks selected))
  let css := table.substitute (Sheet.reduce css)
  return Assembly.theme css variableText selected

/-- Generates the theme of the options, or returns the remembered one if the sources are the
same. -/
def generate (importLimit : Nat) (options : Options) : Stage Text := do
  let sources ← load options
  let digest := Digest.ofText sources.content
  match ← of (Action.request (.remembered digest)) with
  | some theme =>
    of (Action.log .info "Sources unchanged, reusing the cached theme".toList)
    return theme
  | none =>
    let theme ← produce importLimit options sources
    match options.outputFile with
    | none => pure ()
    | some path => write path theme
    of (Action.log .info (successMessage options.outputFile))
    of (Action.request (.remember digest theme))
    return theme

end Retint.Generator
