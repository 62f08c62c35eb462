import Retint.Config.Basic
import Retint.Files.Access
import Retint.Format.Json
import Retint.Format.Yaml.Reader

/-!
# Configuration files

A configuration file is a record in JSON or YAML. Its keys are written in one of two spellings;
keys that are not known are passed over. In JSON the fields can also be given as a list, in their
order.

## Main definitions

* `Config.Field` — the fields, in order, with their keys
* `Config.Draft` — the fields that have been read
* `Config.ofData` — the configuration that some data gives
* `Config.ofFile` — the configuration in a file
-/

namespace Retint.Config

/-! ### Fields -/

/-- The fields of a configuration, in order. -/
inductive Field
  | installDir | libraryDir | stylesDir | mainFile | variableFile | outputFile
  | cssModules | themeVariables | colorPatterns | compilerPath | importPrefix | logFile
deriving DecidableEq, Repr

namespace Field

def all : List Field :=
  [installDir, libraryDir, stylesDir, mainFile, variableFile, outputFile,
    cssModules, themeVariables, colorPatterns, compilerPath, importPrefix, logFile]

/-- The key of a field. -/
def key : Field → Text
  | installDir => "antd_dir".toList
  | libraryDir => "antd_styles_dir".toList
  | stylesDir => "styles_dir".toList
  | mainFile => "main_less_file".toList
  | variableFile => "var_file".toList
  | outputFile => "output_file_path".toList
  | cssModules => "css_modules".toList
  | themeVariables => "theme_variables".toList
  | colorPatterns => "custom_color_regex_array".toList
  | compilerPath => "lessc_path".toList
  | importPrefix => "import_prefix".toList
  | logFile => "log_file".toList

/-- The other spelling of a key, without underscores. -/
def otherKey : Field → Text
  | installDir => "antDir".toList
  | libraryDir => "antdStylesDir".toList
  | stylesDir => "stylesDir".toList
  | mainFile => "mainLessFile".toList
  | variableFile => "varFile".toList
  | outputFile => "outputFilePath".toList
  | cssModules => "cssModules".toList
  | themeVariables => "themeVariables".toList
  | colorPatterns => "customColorRegexArray".toList
  | compilerPath => "lesscPath".toList
  | importPrefix => "importPrefix".toList
  | logFile => "logFile".toList

/-- The field with a key, in either spelling. -/
def ofKey? (t : Text) : Option Field := all.find? fun f => t = f.key ∨ t = f.otherKey

end Field

/-! ### Values -/

/-- A text. -/
def text? : Data → Option Text
  | .text t _ | .plain t _ => some t
  | _ => none

/-- How plain text says that there is no value. If it is marked as nothing it must not be empty. -/
def absentWords : List Text := ["", "~", "null", "Null", "NULL"].map String.toList

/-- A path that can be left out. -/
def path? : Data → Option (Option Path)
  | .null => some none
  | .plain t none => some (if absentWords.contains t then none else some ⟨t⟩)
  | .plain t (some .nothing) => if absentWords.tail.contains t then some none else none
  | .plain t _ | .text t _ => some (some ⟨t⟩)
  | _ => none

/-- A truth value. -/
def bool? : Data → Option Bool
  | .bool b => some b
  | .plain t _ | .text t true =>
    if ["true", "True", "TRUE"].contains (String.ofList t) then some true
    else if ["false", "False", "FALSE"].contains (String.ofList t) then some false
    else none
  | _ => none

/-- A list of texts; nothing is the empty list. -/
def texts? : Data → Option (List Text)
  | .list items => items.mapM text?
  | .plain [] _ => some []
  | _ => none

/-! ### Reading fields -/

/-- The fields that have been read. -/
structure Draft where
  seen : List Field := []
  /-- The configuration so far, with a styles directory that may still have to come. -/
  config : Config := { stylesDir := ⟨[]⟩ }

/-- The draft with the value of a field. -/
def Draft.set? (d : Draft) (field : Field) (value : Data) : Option Draft :=
  let config? : Option Config := match field with
    | .installDir => (path? value).map fun p => { d.config with installDir := p }
    | .libraryDir => (path? value).map fun p => { d.config with libraryDir := p }
    | .stylesDir => (text? value).map fun t => { d.config with stylesDir := ⟨t⟩ }
    | .mainFile => (path? value).map fun p => { d.config with mainFile := p }
    | .variableFile => (path? value).map fun p => { d.config with variableFile := p }
    | .outputFile => (path? value).map fun p => { d.config with outputFile := p }
    | .cssModules => (bool? value).map fun b => { d.config with cssModules := b }
    | .themeVariables => (texts? value).map fun ts => { d.config with themeVariables := ts }
    | .colorPatterns => (texts? value).map fun ts => { d.config with colorPatterns := ts }
    | .compilerPath => (text? value).map fun t => { d.config with compilerPath := ⟨t⟩ }
    | .importPrefix => (text? value).map fun t => { d.config with importPrefix := t }
    | .logFile => (path? value).map fun p => { d.config with logFile := p }
  config?.map fun config => ⟨field :: d.seen, config⟩

/-- What is wrong with the data of a configuration. -/
inductive Fault
  | missing (field : Field)
  | duplicate (field : Field)
  /-- The text goes wrong, or a value is of the wrong kind. -/
  | unreadable
deriving DecidableEq, Repr

def Fault.message : Fault → Text
  | missing field => "missing field `".toList ++ field.key ++ "`".toList
  | duplicate field => "duplicate field `".toList ++ field.key ++ "`".toList
  | unreadable => "parse error".toList

/-- Reads the entries of a record in their order. -/
def Draft.entries (d : Draft) : List (Data × Data) → Except Fault Draft
  | [] => .ok d
  | (key, value) :: rest =>
    match text? key with
    | none => .error .unreadable
    | some key =>
      match Field.ofKey? key with
      | none => if value.isSound then entries d rest else .error .unreadable
      | some field =>
        if d.seen.contains field then .error (.duplicate field)
        else
          match d.set? field value with
          | some d => entries d rest
          | none => .error .unreadable

/-- Reads the items of a list as the fields in their order. -/
def Draft.items (d : Draft) : List Field → List Data → Except Fault Draft
  | _, [] => .ok d
  | [], _ :: _ => .error .unreadable
  | field :: fields, value :: rest =>
    match d.set? field value with
    | some d => items d fields rest
    | none => .error .unreadable

/-! ### Formats -/

/-- The formats of configuration files. -/
inductive Format
  | json | yaml
deriving DecidableEq, Repr

/-- The format of a file by its extension. -/
def Format.ofExtension? (extension : Text) : Option Format :=
  match String.ofList extension with
  | "json" => some .json
  | "yaml" | "yml" => some .yaml
  | _ => none

/-- The data of a text, and whether nothing follows it. -/
def Format.read : Format → Text → Data × Bool
  | json => Json.read
  | yaml => Yaml.read

/-- The configuration that some data gives. An empty document is an empty record, but only where
there is a document without a value. -/
def ofData (format : Format) (d : Data) : Except Fault Config :=
  match d with
  | .record entries => finish (Draft.entries {} entries)
  | .plain [] _ => .error (.missing .stylesDir)
  | .list items =>
    if format = .json then
      match Draft.items {} Field.all items with
      | .ok draft =>
        if draft.seen.contains .stylesDir then .ok draft.config else .error .unreadable
      | .error f => .error f
    else .error .unreadable
  | _ => .error .unreadable
where
  /-- The configuration of a record that has been read to its end. -/
  finish : Except Fault Draft → Except Fault Config
    | .ok draft =>
      if draft.seen.contains .stylesDir then .ok draft.config else .error (.missing .stylesDir)
    | .error f => .error f

/-- The configuration that a text gives. -/
def ofText (format : Format) (t : Text) : Except Fault Config :=
  match format.read t with
  | (d, ended) =>
    match ofData format d with
    | .ok config => if ended then .ok config else .error .unreadable
    | .error f => .error f

/-! ### Files -/

/-- What is said about an extension that is not known. -/
def unsupported (extension : Text) : Failure :=
  .config ("Unsupported config format '".toList ++ extension ++
    "', expected json or yaml".toList)

/-- The configuration that a file's text gives. Its relative paths are seen from the directory of
the file. -/
def ofFileText (path : Path) (t : Text) : Except Failure Config :=
  let extension := path.extension?.getD []
  match Format.ofExtension? extension with
  | none => .error (unsupported extension)
  | some format =>
    match ofText format t with
    | .ok config => .ok (config.relativeTo (path.parent?.getD ⟨[]⟩))
    | .error f => .error (.config (path.text ++ ": ".toList ++ f.message))

/-- What is said when a configuration file cannot be read. -/
def readingFile (path : Path) : Text := "Failed to read config ".toList ++ path.text

/-- The configuration in a file. -/
def ofFile (fs : FileSystem) (path : Path) : Except Failure Config :=
  match fs.readText path with
  | .error f => .error (.file (readingFile path) f)
  | .ok t => ofFileText path t

end Retint.Config
