import Retint.Action
import Retint.Import

/-!
# The user's own styles

All style files under a directory are compiled, each on its own and all together, and the results
are put together in the order of the walk. A file that cannot be read or compiled contributes
nothing; that is no failure.

## Main definitions

* `CustomStyles.sheets` — the style files among the files of a walk
* `CustomStyles.compileFile` — what one file contributes
* `CustomStyles.compile` — what all of them contribute
-/

namespace Retint.CustomStyles

/-- The style files among some files. -/
def sheets (files : List Path) : List Path :=
  files.filter fun p => p.extension? = some Import.extension

/-- The directories in which the imports of a file are looked for. -/
def includes (stylesDir libraryDir file : Path) : List Path :=
  file.parent?.toList ++ [stylesDir, libraryDir]

/-- What one file contributes: what it compiles to, or nothing. -/
def compileFile (stylesDir libraryDir file : Path) : Action Text := do
  match ← Action.request (.readText file) with
  | .error f =>
    Action.log .warn ("Failed to read ".toList ++ file.text ++ ": ".toList ++ f.message)
    return []
  | .ok source =>
    match ← Action.request (.compile source (includes stylesDir libraryDir file)) with
    | .ok css => return css
    | .error f =>
      Action.log .warn ("Skipping ".toList ++ file.text ++ ": ".toList ++ f.message)
      return []

/-- What a failed walk is reported as. -/
def walkReport (dir : Path) (f : FileFault) : Text :=
  "IO error for operation on ".toList ++ dir.text ++ ": ".toList ++ f.message

/-- What all style files contribute, a line end between one and the next. -/
def compile (stylesDir libraryDir : Path) : Action Text := do
  match ← Action.request (.walk stylesDir) with
  | .error f =>
    Action.log .error ("Failed to scan custom styles in ".toList ++ stylesDir.text ++
      ": ".toList ++ walkReport stylesDir f)
    return []
  | .ok files =>
    let parts ← Action.all ((sheets files).map (compileFile stylesDir libraryDir))
    return Text.joinWith ['\n'] parts

end Retint.CustomStyles
