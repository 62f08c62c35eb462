import Retint.Action
import Retint.Assembly
import Retint.Bundle
import Retint.Cache
import Retint.Cli
import Retint.Color
import Retint.ColorMap
import Retint.ColorTable
import Retint.Compiler.Basic
import Retint.Compiler.Flat
import Retint.Compiler.Script
import Retint.Config.Basic
import Retint.Config.File
import Retint.CustomStyles
import Retint.Declaration
import Retint.Dict
import Retint.Digest
import Retint.Failure
import Retint.Files.Access
import Retint.Files.Lookup
import Retint.Files.Tree
import Retint.Format.Data
import Retint.Format.Json
import Retint.Format.Yaml.Reader
import Retint.Format.Yaml.Scalar
import Retint.Format.Yaml.Source
import Retint.Format.Yaml.Tag
import Retint.Format.Yaml.Token
import Retint.Generator
import Retint.Import
import Retint.Literals
import Retint.Main
import Retint.Options
import Retint.Path
import Retint.Pattern.Basic
import Retint.Pattern.Piece
import Retint.Pattern.Reader
import Retint.Pattern.Search
import Retint.Shade
import Retint.Sheet.Node
import Retint.Sheet.Reader
import Retint.Sheet.Reduction
import Retint.Sheet.Removal
import Retint.Sheet.Token
import Retint.Shell.Arithmetic
import Retint.Shell.Awk.Reader
import Retint.Shell.Awk.Record
import Retint.Shell.Awk.Run
import Retint.Shell.Awk.State
import Retint.Shell.Awk.Syntax
import Retint.Shell.Awk.Token
import Retint.Shell.Awk.Value
import Retint.Shell.Builtin
import Retint.Shell.Condition
import Retint.Shell.Expand
import Retint.Shell.Field
import Retint.Shell.Format
import Retint.Shell.Glob
import Retint.Shell.Number
import Retint.Shell.Print
import Retint.Shell.Program
import Retint.Shell.Raw
import Retint.Shell.Reader
import Retint.Shell.Redirect
import Retint.Shell.Regex
import Retint.Shell.Run
import Retint.Shell.Source
import Retint.Shell.State
import Retint.Shell.Syntax
import Retint.Shell.Tool.Base64
import Retint.Shell.Tool.Copy
import Retint.Shell.Tool.Edit
import Retint.Shell.Tool.EditScript
import Retint.Shell.Tool.Expr
import Retint.Shell.Tool.Files
import Retint.Shell.Tool.Grep
import Retint.Shell.Tool.Launch
import Retint.Shell.Tool.Lines
import Retint.Shell.Tool.Options
import Retint.Shell.Tool.Sort
import Retint.Shell.Tool.Table
import Retint.Shell.Tool.Translate
import Retint.Surroundings
import Retint.Text
import Retint.Text.Source
import Retint.Text.Utf8
import Retint.Timestamp
import Retint.Unicode.Age
import Retint.Unicode.Break
import Retint.Unicode.Category
import Retint.Unicode.CharSet
import Retint.Unicode.Class
import Retint.Unicode.Fold
import Retint.Unicode.Name
import Retint.Unicode.Printing
import Retint.Unicode.Property
import Retint.Unicode.Script
import Retint.Proofs.Colors.Literal
import Retint.Proofs.Colors.Scan
import Retint.Proofs.Colors.Shade
import Retint.Proofs.Colors.Compiled
import Retint.Proofs.Colors.Attribution
import Retint.Proofs.Colors.Order
import Retint.Proofs.Sheet.Kept
import Retint.Proofs.Generator.Asks
import Retint.Proofs.Generator.Cached
import Retint.Proofs.Files.Growth
import Retint.Proofs.Dict
import Retint.Proofs.Flat.Reads
import Retint.Proofs.Flat.Blocks
import Retint.Proofs.Text.Braces
import Retint.Proofs.Theme.Strip
import Retint.Proofs.Theme.VariableLine
import Retint.Proofs.Theme.VariableText
import Retint.Proofs.Theme.Probes
import Retint.Proofs.Theme.ProbeKeys
import Retint.Proofs.Theme.Restored
import Retint.Proofs.Theme.Switching
import Retint.Proofs.Theme.Leftover
import Retint.Proofs.Theme.Lead
import Retint.Proofs.Bundle.Statement
import Retint.Proofs.Bundle.Expansion
import Retint.Proofs.Bundle.InPlace
import Retint.Proofs.Bundle.Finite
import Retint.Proofs.Bundle.Search
import Retint.Proofs.Generator.Failed
import Retint.Proofs.Generator.Made
import Retint.Proofs.Theme.FlatSource
import Retint.Proofs.Generator.Overridden
import Retint.Proofs.ColorMap.Alias
import Retint.Proofs.ColorMap.Reading
import Retint.Proofs.ColorMap.Aliased
import Retint.Proofs.ColorMap.Joined
import Retint.Proofs.ColorMap.Line
import Retint.Proofs.Files.Written
import Retint.Proofs.Generator.Output
import Retint.Proofs.Generator.Replies
import Retint.Proofs.Generator.Overlap
import Retint.Proofs.Text.Places
import Retint.Proofs.Sheet.CutOut
import Retint.Proofs.Sheet.Printed
import Retint.Proofs.Theme.Spared
import Retint.Proofs.Theme.Redeclared
import Retint.Proofs.Theme.Others
import Retint.Proofs.Literals
import Retint.Proofs.CustomStyles.Together
import Retint.Proofs.CustomStyles.Quiet
import Retint.Proofs.CustomStyles.Slots
import Retint.Proofs.Bundle.ByLine
import Retint.Proofs.Files.LineEnds
import Retint.Proofs.Bundle.LineEnds
import Retint.Proofs.Colors.Characters
import Retint.Proofs.Colors.Recognizer
import Retint.Proofs.Pattern.Meaning
import Retint.Proofs.Pattern.Search
import Retint.Proofs.Pattern.Language
import Retint.Proofs.Colors.Grammar
import Retint.Proofs.Path
import Retint.Proofs.Config
import Retint.Proofs.Pattern.Rows
import Retint.Proofs.Declaration
import Retint.Proofs.Text.Order
import Retint.Proofs.Files.Walk
import Retint.Proofs.CustomStyles.Discovery
import Retint.Proofs.Generator.Silent
import Retint.Proofs.Cli
