import DocEnum.Benchmark
import DocEnum.CommandLine.Arguments
import DocEnum.CommandLine.Command
import DocEnum.CommandLine.Run
import DocEnum.Comment
import DocEnum.Console.Basic
import DocEnum.Console.Emoji
import DocEnum.Console.Literal
import DocEnum.Console.LogLines
import DocEnum.Console.Markup
import DocEnum.Console.Style
import DocEnum.Console.Wrap
import DocEnum.ConstantName
import DocEnum.Entry
import DocEnum.Error
import DocEnum.File.Fault
import DocEnum.File.Path
import DocEnum.File.Store
import DocEnum.Generation
import DocEnum.Java.CompilationUnit
import DocEnum.Java.Declaration
import DocEnum.Java.Enum
import DocEnum.Java.Identifier
import DocEnum.Java.Naming
import DocEnum.Java.Noise
import DocEnum.Job.Basic
import DocEnum.Job.Run
import DocEnum.Json.Printer
import DocEnum.Json.Reader
import DocEnum.Libraries
import DocEnum.Log
import DocEnum.Main
import DocEnum.Manifest
import DocEnum.Number.Binary64
import DocEnum.Text.Basic
import DocEnum.Text.Blank
import DocEnum.Text.CodePoint
import DocEnum.Text.Digit
import DocEnum.Text.Lower
import DocEnum.Text.Printable
import DocEnum.Text.Quoted
import DocEnum.Text.Similar
import DocEnum.Text.Upper
import DocEnum.Text.Utf8
import DocEnum.Text.Width
import DocEnum.Text.Word
import DocEnum.Value.Basic
import DocEnum.Value.Fault
import DocEnum.Value.Numeral
import DocEnum.Value.SetOrder
import DocEnum.Value.Shown
import DocEnum.Workspace
import DocEnum.Yaml.Binary
import DocEnum.Yaml.Cursor
import DocEnum.Yaml.Document
import DocEnum.Yaml.Fault
import DocEnum.Yaml.Grammar
import DocEnum.Yaml.Node
import DocEnum.Yaml.Plain
import DocEnum.Yaml.Printer
import DocEnum.Yaml.Reader
import DocEnum.Yaml.Scalar
import DocEnum.Yaml.Token
import DocEnum.Proofs.Appending
import DocEnum.Proofs.Batch
import DocEnum.Proofs.Benchmark
import DocEnum.Proofs.CanonicalName
import DocEnum.Proofs.Cleaning
import DocEnum.Proofs.CommandLine.Agreement
import DocEnum.Proofs.CommandLine.Handling
import DocEnum.Proofs.CommandLine.Printing
import DocEnum.Proofs.CommandLine.Steps
import DocEnum.Proofs.Comment
import DocEnum.Proofs.Console.Display
import DocEnum.Proofs.Console.Headed
import DocEnum.Proofs.Console.Protection
import DocEnum.Proofs.Console.Verbatim
import DocEnum.Proofs.ConstantName
import DocEnum.Proofs.DataModel
import DocEnum.Proofs.Decoration
import DocEnum.Proofs.Delivery
import DocEnum.Proofs.Descriptions
import DocEnum.Proofs.Encoding
import DocEnum.Proofs.File.Destination
import DocEnum.Proofs.File.Growth
import DocEnum.Proofs.Interruption
import DocEnum.Proofs.Java.Acceptance
import DocEnum.Proofs.Java.AnnotatedField
import DocEnum.Proofs.Java.BlankedText
import DocEnum.Proofs.Java.Blanking
import DocEnum.Proofs.Java.Braces
import DocEnum.Proofs.Java.DeclaredNames
import DocEnum.Proofs.Java.FieldDoc
import DocEnum.Proofs.Java.FieldParts
import DocEnum.Proofs.Java.FieldSearch
import DocEnum.Proofs.Java.FirstType
import DocEnum.Proofs.Java.GeneratedUnit
import DocEnum.Proofs.Java.Literals
import DocEnum.Proofs.Java.LookupTable
import DocEnum.Proofs.Java.Occurrences
import DocEnum.Proofs.Java.PackageLine
import DocEnum.Proofs.Java.Pieces
import DocEnum.Proofs.Java.PlainClass
import DocEnum.Proofs.Java.ReadBack
import DocEnum.Proofs.Java.Reading
import DocEnum.Proofs.Java.ScannedNames
import DocEnum.Proofs.Java.SourceCharacters
import DocEnum.Proofs.Java.SourceParts
import DocEnum.Proofs.Java.WrittenField
import DocEnum.Proofs.Job.Confinement
import DocEnum.Proofs.Job.Effect
import DocEnum.Proofs.Job.Failure
import DocEnum.Proofs.Job.FieldRequest
import DocEnum.Proofs.Job.Input
import DocEnum.Proofs.Job.Obstruction
import DocEnum.Proofs.Json.Writable
import DocEnum.Proofs.Json.Writer
import DocEnum.Proofs.Libraries
import DocEnum.Proofs.Lines
import DocEnum.Proofs.Listing
import DocEnum.Proofs.Loading
import DocEnum.Proofs.Loggers
import DocEnum.Proofs.NameSearch
import DocEnum.Proofs.Recovery
import DocEnum.Proofs.Segments
import DocEnum.Proofs.Text
