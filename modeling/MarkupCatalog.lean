import MarkupCatalog.Account
import MarkupCatalog.Annotation.Block
import MarkupCatalog.Annotation.Metadata
import MarkupCatalog.Annotation.Pair
import MarkupCatalog.Arguments.Basic
import MarkupCatalog.Arguments.Grammar
import MarkupCatalog.Base64
import MarkupCatalog.Callback
import MarkupCatalog.Channel.Basic
import MarkupCatalog.Channel.Performance
import MarkupCatalog.Charset.Basic
import MarkupCatalog.Charset.CodePage
import MarkupCatalog.Charset.Codecs
import MarkupCatalog.Charset.Escaped
import MarkupCatalog.Charset.Fault
import MarkupCatalog.Charset.Name
import MarkupCatalog.Charset.Table
import MarkupCatalog.Charset.Utf7
import MarkupCatalog.Charset.Utf8
import MarkupCatalog.Charset.Wide
import MarkupCatalog.Collection.Plan
import MarkupCatalog.Collection.Run
import MarkupCatalog.Decimal.Double
import MarkupCatalog.Decimal.Fixed
import MarkupCatalog.Decimal.Format
import MarkupCatalog.Decimal.Shortest
import MarkupCatalog.Exclusion.Glob
import MarkupCatalog.Exclusion.Rule
import MarkupCatalog.Failure
import MarkupCatalog.FileSystem.Basic
import MarkupCatalog.FileSystem.Change
import MarkupCatalog.FileSystem.Fault
import MarkupCatalog.FileSystem.Lookup
import MarkupCatalog.FileSystem.Operation
import MarkupCatalog.FileSystem.Reading
import MarkupCatalog.Json.Basic
import MarkupCatalog.Json.Literal
import MarkupCatalog.Json.Printing
import MarkupCatalog.Log.Argument
import MarkupCatalog.Log.Logger
import MarkupCatalog.Log.Message
import MarkupCatalog.Log.Record
import MarkupCatalog.Log.Session
import MarkupCatalog.Main
import MarkupCatalog.Path
import MarkupCatalog.Program
import MarkupCatalog.Proofs.Annotation.Comment
import MarkupCatalog.Proofs.Annotation.Header
import MarkupCatalog.Proofs.Annotation.Joining
import MarkupCatalog.Proofs.Annotation.Keys
import MarkupCatalog.Proofs.Annotation.Layout
import MarkupCatalog.Proofs.Annotation.LineEnding
import MarkupCatalog.Proofs.Annotation.NormalForm
import MarkupCatalog.Proofs.Annotation.Printing
import MarkupCatalog.Proofs.Channel.Chronicle
import MarkupCatalog.Proofs.Channel.Course
import MarkupCatalog.Proofs.Channel.Delivery
import MarkupCatalog.Proofs.Channel.Order
import MarkupCatalog.Proofs.Charset.Utf8
import MarkupCatalog.Proofs.Collection.MainLine
import MarkupCatalog.Proofs.Collection.Output
import MarkupCatalog.Proofs.Collection.Plan
import MarkupCatalog.Proofs.Collection.Protocol
import MarkupCatalog.Proofs.Collection.Records
import MarkupCatalog.Proofs.Collection.Settling
import MarkupCatalog.Proofs.Collection.Shared
import MarkupCatalog.Proofs.Collection.Success
import MarkupCatalog.Proofs.Collection.Truncation
import MarkupCatalog.Proofs.Collection.Turns
import MarkupCatalog.Proofs.FileSystem.Growth
import MarkupCatalog.Proofs.FileSystem.Handle
import MarkupCatalog.Proofs.FileSystem.Preservation
import MarkupCatalog.Proofs.Json.Grammar
import MarkupCatalog.Proofs.Json.Indented
import MarkupCatalog.Proofs.Json.Reading
import MarkupCatalog.Proofs.Json.Roundtrip
import MarkupCatalog.Proofs.Log.Session
import MarkupCatalog.Proofs.Log.SetUp
import MarkupCatalog.Proofs.Log.Trace
import MarkupCatalog.Proofs.Program.Delivery
import MarkupCatalog.Proofs.Program.Destination
import MarkupCatalog.Proofs.Record
import MarkupCatalog.Proofs.Scan.Candidate
import MarkupCatalog.Proofs.Scan.Registry
import MarkupCatalog.Proofs.Template
import MarkupCatalog.Proofs.Text.CarriageReturn
import MarkupCatalog.Proofs.Text.Occurrence
import MarkupCatalog.Proofs.Text.Strip
import MarkupCatalog.Proofs.Writer.Call
import MarkupCatalog.Proofs.Writer.History
import MarkupCatalog.Proofs.Writer.Integrity
import MarkupCatalog.Proofs.Writer.OutputFile
import MarkupCatalog.Proofs.Writer.Report
import MarkupCatalog.Record
import MarkupCatalog.Scan.Candidate
import MarkupCatalog.Scan.Registry
import MarkupCatalog.Settings.Basic
import MarkupCatalog.Settings.File
import MarkupCatalog.Settings.Option
import MarkupCatalog.Template
import MarkupCatalog.Text.Basic
import MarkupCatalog.Text.Blank
import MarkupCatalog.Text.Digit
import MarkupCatalog.Text.Lines
import MarkupCatalog.Text.Lowercase
import MarkupCatalog.Text.Printable
import MarkupCatalog.Text.Quoted
import MarkupCatalog.Text.Search
import MarkupCatalog.Text.Word
import MarkupCatalog.Writer.Basic
import MarkupCatalog.Writer.OutputFile
import MarkupCatalog.Writer.Session
import MarkupCatalog.Yaml.Cursor
import MarkupCatalog.Yaml.Moment
import MarkupCatalog.Yaml.Node
import MarkupCatalog.Yaml.Number
import MarkupCatalog.Yaml.Scalar
import MarkupCatalog.Yaml.Tag
import MarkupCatalog.Yaml.Token
import MarkupCatalog.Yaml.Value
import MarkupCatalog.Proofs.Scan.Narrowing
import MarkupCatalog.Proofs.Json.Ascii
import MarkupCatalog.Proofs.Program.Printing
import MarkupCatalog.Proofs.Settings.FixedPoint
import MarkupCatalog.Proofs.Program.Farewell
import MarkupCatalog.Proofs.Text.Joining
import MarkupCatalog.Proofs.Exclusion.Literal
import MarkupCatalog.Proofs.Scan.Sparing
import MarkupCatalog.Proofs.Annotation.Repetition
import MarkupCatalog.Proofs.Channel.Reading
import MarkupCatalog.Proofs.Settings.Loading
