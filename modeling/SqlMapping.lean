import SqlMapping.Access.Accessor
import SqlMapping.Access.Database
import SqlMapping.Access.Event
import SqlMapping.Batch.Generate
import SqlMapping.Batch.Load
import SqlMapping.Batch.Outcome
import SqlMapping.Batch.Report
import SqlMapping.Calendar.Date
import SqlMapping.Calendar.DateTime
import SqlMapping.Calendar.Notation
import SqlMapping.Column.Basic
import SqlMapping.Column.Declaration
import SqlMapping.Column.Decoder
import SqlMapping.Column.Default
import SqlMapping.Column.HostType
import SqlMapping.Column.Reference
import SqlMapping.Column.Type
import SqlMapping.CommandLine.Argument
import SqlMapping.CommandLine.Help
import SqlMapping.CommandLine.Misuse
import SqlMapping.CommandLine.Options
import SqlMapping.CommandLine.Reading
import SqlMapping.CommandLine.Session
import SqlMapping.Decode.Apply
import SqlMapping.Decode.Fault
import SqlMapping.Decode.Plan
import SqlMapping.Decode.Row
import SqlMapping.Decode.Step
import SqlMapping.Document.Json
import SqlMapping.Document.Load
import SqlMapping.Document.Sections
import SqlMapping.Document.Yaml.Cursor
import SqlMapping.Document.Yaml.Meaning
import SqlMapping.Document.Yaml.Node
import SqlMapping.Document.Yaml.Scalar
import SqlMapping.Document.Yaml.Tag
import SqlMapping.Document.Yaml.Token
import SqlMapping.Entity.Artifacts
import SqlMapping.Entity.Declaration
import SqlMapping.Entity.Resolve
import SqlMapping.Entity.Schema
import SqlMapping.Failure
import SqlMapping.Files.Path
import SqlMapping.Files.Tree
import SqlMapping.Files.Write
import SqlMapping.Log
import SqlMapping.Main
import SqlMapping.Number.Arithmetic
import SqlMapping.Number.Decimal
import SqlMapping.Number.Integer
import SqlMapping.Number.Real64
import SqlMapping.Number.Shortest
import SqlMapping.Proofs.Sql.Placeholder
import SqlMapping.Proofs.Sql.Adaptation
import SqlMapping.Proofs.Sql.Lexeme
import SqlMapping.Proofs.Sql.Token
import SqlMapping.Query
import SqlMapping.Render.Json
import SqlMapping.Render.Module
import SqlMapping.Render.Script
import SqlMapping.Run
import SqlMapping.Settings
import SqlMapping.Shape.Checked
import SqlMapping.Shape.Problem
import SqlMapping.Shape.Record
import SqlMapping.Shape.Scalar
import SqlMapping.Statement.Basic
import SqlMapping.Statement.Create
import SqlMapping.Statement.Name
import SqlMapping.Statement.Placeholder
import SqlMapping.Statement.Query
import SqlMapping.Statement.Standard
import SqlMapping.Text.Base64
import SqlMapping.Text.Blank
import SqlMapping.Text.Case
import SqlMapping.Text.CaseTable
import SqlMapping.Text.CharSet
import SqlMapping.Text.CodePoint
import SqlMapping.Text.Delimited
import SqlMapping.Text.Digit
import SqlMapping.Text.DigitTable
import SqlMapping.Text.Identifier
import SqlMapping.Text.Layout
import SqlMapping.Text.Letter
import SqlMapping.Text.LetterTable
import SqlMapping.Text.PrintableTable
import SqlMapping.Text.Quoted
import SqlMapping.Text.Utf8
import SqlMapping.Text.Words
import SqlMapping.Validation.Check
import SqlMapping.Validation.Issue
import SqlMapping.Value
import SqlMapping.Proofs.Entity.Resolved
import SqlMapping.Proofs.Sql.Number
import SqlMapping.Proofs.Statement.Create
import SqlMapping.Proofs.Statement.Standard
import SqlMapping.Proofs.Statement.BindingPlan
import SqlMapping.Proofs.Statement.TableText
import SqlMapping.Proofs.Entity.Generated
import SqlMapping.Proofs.Access.RoundTrip
import SqlMapping.Proofs.Entity.DigitLimit
import SqlMapping.Proofs.Entity.Escape
import SqlMapping.Proofs.Statement.QueryWarning
import SqlMapping.Proofs.Batch.Isolation
import SqlMapping.Proofs.Batch.Accounting
import SqlMapping.Proofs.Batch.Stopping
import SqlMapping.Proofs.Validation.Coherence
import SqlMapping.Proofs.Validation.Names
import SqlMapping.Proofs.Batch.Certificate
import SqlMapping.Proofs.CommandLine.OutputFiles
import SqlMapping.Proofs.Sql.Script
import SqlMapping.Proofs.Statement.OneStatement
import SqlMapping.Proofs.Render.Script
import SqlMapping.Proofs.Access.Call
import SqlMapping.Proofs.Access.Connection
import SqlMapping.Proofs.Entity.Acceptance
import SqlMapping.Proofs.Access.KeyAgreement
import SqlMapping.Proofs.Batch.Depth
import SqlMapping.Proofs.Batch.Independence
import SqlMapping.Proofs.Text.CodePoint
import SqlMapping.Proofs.Text.Lines
import SqlMapping.Proofs.Text.Literal
import SqlMapping.Proofs.Text.Identifier
import SqlMapping.Proofs.Render.Module
import SqlMapping.Proofs.Render.Docstring
import SqlMapping.Proofs.Files.Tree
import SqlMapping.Proofs.Files.Write
import SqlMapping.Proofs.CommandLine.Session
import SqlMapping.Proofs.CommandLine.Output
import SqlMapping.Proofs.CommandLine.Exit
import SqlMapping.Proofs.Render.Arguments
import SqlMapping.Proofs.Render.ClassName
import SqlMapping.Proofs.Render.Members
import SqlMapping.Proofs.Calendar.DayNumber
import SqlMapping.Proofs.Calendar.Notation
import SqlMapping.Proofs.Decode.Timestamp
import SqlMapping.Proofs.Decode.RowShape
import SqlMapping.Proofs.Decode.Typing
import SqlMapping.Proofs.Access.Subject
import SqlMapping.Proofs.Number.Digits
import SqlMapping.Proofs.Shape.Record
import SqlMapping.Proofs.Shape.Depth
import SqlMapping.Proofs.Column.TypeText
import SqlMapping.Proofs.Column.Reading
import SqlMapping.Proofs.Column.NumericLiteral
import SqlMapping.Proofs.Entity.Refusal
import SqlMapping.Proofs.Entity.ReportOrder
import SqlMapping.Proofs.Entity.SizeSuffix
import SqlMapping.Proofs.Entity.Restatement
import SqlMapping.Proofs.Decode.Buffer
import SqlMapping.Proofs.Decode.Untyped
import SqlMapping.Proofs.Document.JsonText
import SqlMapping.Proofs.Render.DataText
import SqlMapping.Proofs.Text.SnakeCase
import SqlMapping.Proofs.Text.Substitution
import SqlMapping.Proofs.Text.WordPattern
import SqlMapping.Proofs.CommandLine.FileName
import SqlMapping.Proofs.Text.Trimming
import SqlMapping.Proofs.Render.ArgumentNames
import SqlMapping.Proofs.Column.TrailingSize
import SqlMapping.Proofs.Column.TypeLookup
