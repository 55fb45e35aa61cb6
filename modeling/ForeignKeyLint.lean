import ForeignKeyLint.ChangeSet
import ForeignKeyLint.CommandLine
import ForeignKeyLint.Config
import ForeignKeyLint.Config.Document
import ForeignKeyLint.Decimal.Binary
import ForeignKeyLint.Decimal.Fixed
import ForeignKeyLint.Decimal.Shortest
import ForeignKeyLint.Diagnostic
import ForeignKeyLint.Disk.Failure
import ForeignKeyLint.Disk.Tree
import ForeignKeyLint.Domain
import ForeignKeyLint.Domain.Direction
import ForeignKeyLint.Domain.Joining
import ForeignKeyLint.Domain.Mapping
import ForeignKeyLint.Domain.Punycode
import ForeignKeyLint.Git
import ForeignKeyLint.Glob
import ForeignKeyLint.Host
import ForeignKeyLint.Json.Reader
import ForeignKeyLint.Json.Value
import ForeignKeyLint.Json.Writer
import ForeignKeyLint.Lint.Policy
import ForeignKeyLint.Lint.Verdict
import ForeignKeyLint.Main
import ForeignKeyLint.Migration.ColumnStatement
import ForeignKeyLint.Migration.IndexStatement
import ForeignKeyLint.Migration.JoinTable
import ForeignKeyLint.Migration.Meaning
import ForeignKeyLint.Migration.Nesting
import ForeignKeyLint.Migration.Scan
import ForeignKeyLint.Path
import ForeignKeyLint.Proofs.Lint.AddedIndex
import ForeignKeyLint.Proofs.Lint.Erasure
import ForeignKeyLint.Proofs.Lint.Independence
import ForeignKeyLint.Proofs.Lint.Reported
import ForeignKeyLint.Proofs.Lint.Suggestion
import ForeignKeyLint.Proofs.Migration.Depth
import ForeignKeyLint.Proofs.Migration.Printed
import ForeignKeyLint.Proofs.Migration.Rollback
import ForeignKeyLint.Proofs.Migration.Unread
import ForeignKeyLint.Proofs.Ruby.BlockOpener
import ForeignKeyLint.Proofs.Ruby.CallText
import ForeignKeyLint.Proofs.Ruby.Comment
import ForeignKeyLint.Proofs.Ruby.Element
import ForeignKeyLint.Proofs.Ruby.Opening
import ForeignKeyLint.Proofs.Ruby.Pieces
import ForeignKeyLint.Proofs.Ruby.Quotation
import ForeignKeyLint.Proofs.Ruby.ReadingEnd
import ForeignKeyLint.Proofs.Ruby.SingleLine
import ForeignKeyLint.Proofs.Ruby.ValueText
import ForeignKeyLint.Proofs.Schema.Columns
import ForeignKeyLint.Proofs.Schema.Cover
import ForeignKeyLint.Proofs.Schema.Life
import ForeignKeyLint.Proofs.Schema.Part
import ForeignKeyLint.Proofs.Schema.Renaming
import ForeignKeyLint.Proofs.Schema.Replay
import ForeignKeyLint.Proofs.Schema.Tables
import ForeignKeyLint.RawText
import ForeignKeyLint.Report
import ForeignKeyLint.Report.Annotations
import ForeignKeyLint.Report.Document
import ForeignKeyLint.Report.Text
import ForeignKeyLint.Ruby.Call
import ForeignKeyLint.Ruby.Code
import ForeignKeyLint.Ruby.Keyword
import ForeignKeyLint.Ruby.Line
import ForeignKeyLint.Ruby.Literal
import ForeignKeyLint.Ruby.Statement
import ForeignKeyLint.Ruby.Value
import ForeignKeyLint.Run
import ForeignKeyLint.Schema.Column
import ForeignKeyLint.Schema.Event
import ForeignKeyLint.Schema.Index
import ForeignKeyLint.Schema.Kind
import ForeignKeyLint.Schema.State
import ForeignKeyLint.Snapshot
import ForeignKeyLint.Telemetry.Event
import ForeignKeyLint.Telemetry.Log
import ForeignKeyLint.Telemetry.Metrics
import ForeignKeyLint.Text.Alphanumeric
import ForeignKeyLint.Text.Blank
import ForeignKeyLint.Text.Bytes
import ForeignKeyLint.Text.CodeTable
import ForeignKeyLint.Text.Composition
import ForeignKeyLint.Text.Hex
import ForeignKeyLint.Text.Lines
import ForeignKeyLint.Text.Mark
import ForeignKeyLint.Text.Search
import ForeignKeyLint.Url
import ForeignKeyLint.Url.Address
import ForeignKeyLint.Url.Authority
import ForeignKeyLint.Url.Percent
import ForeignKeyLint.World
import ForeignKeyLint.Yaml.Cell
import ForeignKeyLint.Yaml.Node
import ForeignKeyLint.Yaml.Scalar
import ForeignKeyLint.Yaml.Token
import ForeignKeyLint.Proofs.Schema.Lineage
import ForeignKeyLint.Proofs.Lint.Provenance
import ForeignKeyLint.Proofs.Lint.Ambiguity
import ForeignKeyLint.Proofs.Migration.Verbosity
import ForeignKeyLint.Proofs.Lint.DefaultIndex
import ForeignKeyLint.Proofs.Text.Lines
import ForeignKeyLint.Proofs.Ruby.LineByLine
import ForeignKeyLint.Proofs.Ruby.Concatenation
import ForeignKeyLint.Proofs.Migration.Concatenation
import ForeignKeyLint.Proofs.Schema.Touched
import ForeignKeyLint.Proofs.Lint.InlineIndex
import ForeignKeyLint.Proofs.Migration.Fault
import ForeignKeyLint.Proofs.Report.ReadFailure
import ForeignKeyLint.Proofs.Migration.BlockForm
import ForeignKeyLint.Proofs.Ruby.Reach
import ForeignKeyLint.Proofs.Ruby.Division
import ForeignKeyLint.Proofs.Ruby.LiteralContent
import ForeignKeyLint.Proofs.Ruby.Joining
import ForeignKeyLint.Proofs.Ruby.BrokenStatement
import ForeignKeyLint.Proofs.RawText
import ForeignKeyLint.Proofs.ChangeSet
import ForeignKeyLint.Proofs.Lint.MovedIndex
import ForeignKeyLint.Proofs.Migration.Interpretation
import ForeignKeyLint.Proofs.Text.ByteSlice
import ForeignKeyLint.Proofs.Ruby.ByteReader
import ForeignKeyLint.Proofs.Migration.JoinTable
import ForeignKeyLint.Proofs.Migration.Position
import ForeignKeyLint.Proofs.Ruby.LastStatement
import ForeignKeyLint.Proofs.Migration.Unfinished
import ForeignKeyLint.Proofs.Report.Annotation
import ForeignKeyLint.Proofs.Lint.IndexCount
import ForeignKeyLint.Proofs.Report.Escape
import ForeignKeyLint.Proofs.Config
import ForeignKeyLint.Proofs.Ruby.Definition
import ForeignKeyLint.Proofs.Migration.Definition
