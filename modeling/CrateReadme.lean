import CrateReadme.Cbor.Codec
import CrateReadme.Cbor.Value
import CrateReadme.Command.Arguments
import CrateReadme.Command.Options
import CrateReadme.Command.Run
import CrateReadme.Command.Session
import CrateReadme.Command.Usage
import CrateReadme.Config.Basic
import CrateReadme.Config.Source
import CrateReadme.Data.Json
import CrateReadme.Data.Toml.Document
import CrateReadme.Data.Toml.Scalar
import CrateReadme.Data.Toml.Tree
import CrateReadme.Data.Toml.Value
import CrateReadme.Data.Value
import CrateReadme.Diagnostic.Basic
import CrateReadme.Diagnostic.Report
import CrateReadme.Digest.Blake3
import CrateReadme.Files.Store
import CrateReadme.Link.Address
import CrateReadme.Link.Host
import CrateReadme.Link.Reference
import CrateReadme.Logging.Level
import CrateReadme.Main
import CrateReadme.Markdown.Block.Basic
import CrateReadme.Markdown.Block.Definition
import CrateReadme.Markdown.Block.Reader
import CrateReadme.Markdown.Block.Start
import CrateReadme.Markdown.Char
import CrateReadme.Markdown.CodeBlock
import CrateReadme.Markdown.Destination
import CrateReadme.Markdown.Entity
import CrateReadme.Markdown.EntityTable
import CrateReadme.Markdown.Escape
import CrateReadme.Markdown.Html
import CrateReadme.Markdown.Inline.Balance
import CrateReadme.Markdown.Inline.Basic
import CrateReadme.Markdown.Inline.Reader
import CrateReadme.Markdown.Inline.Scan
import CrateReadme.Markdown.LinkParts
import CrateReadme.Markdown.Printer
import CrateReadme.Package.Basic
import CrateReadme.Package.Dependency
import CrateReadme.Package.Metadata
import CrateReadme.Patch.Matching
import CrateReadme.Patch.Unified
import CrateReadme.Readme.Check
import CrateReadme.Readme.Input
import CrateReadme.Readme.Render
import CrateReadme.Scope.Basic
import CrateReadme.Scope.Build
import CrateReadme.Snapshot.Basic
import CrateReadme.Snapshot.Token
import CrateReadme.Source.Groups
import CrateReadme.Source.Item
import CrateReadme.Source.Lexer
import CrateReadme.Source.Outline
import CrateReadme.Source.Token
import CrateReadme.Source.UseTree
import CrateReadme.Symbol.Kind
import CrateReadme.Symbol.Path
import CrateReadme.Symbol.Prelude
import CrateReadme.Template.Access
import CrateReadme.Template.Arguments
import CrateReadme.Template.Bundled
import CrateReadme.Template.Compare
import CrateReadme.Template.Error
import CrateReadme.Template.Evaluate
import CrateReadme.Template.Filter
import CrateReadme.Template.Filter.Json
import CrateReadme.Template.Filter.Layout
import CrateReadme.Template.Filter.Number
import CrateReadme.Template.Filter.Sequence
import CrateReadme.Template.Filter.Text
import CrateReadme.Template.Format.Brace
import CrateReadme.Template.Format.Layout
import CrateReadme.Template.Format.Percent
import CrateReadme.Template.Markup
import CrateReadme.Template.Method.Container
import CrateReadme.Template.Method.Text
import CrateReadme.Template.Names
import CrateReadme.Template.Operator
import CrateReadme.Template.Parser
import CrateReadme.Template.Program
import CrateReadme.Template.Render
import CrateReadme.Template.Scope
import CrateReadme.Template.Sequence
import CrateReadme.Template.Show
import CrateReadme.Template.Syntax
import CrateReadme.Template.Test
import CrateReadme.Template.Token
import CrateReadme.Template.Value
import CrateReadme.Terminal.Style
import CrateReadme.Text.Base64
import CrateReadme.Text.Basic
import CrateReadme.Text.Case
import CrateReadme.Text.CaseClass
import CrateReadme.Text.CaseMap
import CrateReadme.Text.Digits
import CrateReadme.Text.Identifier
import CrateReadme.Text.Integer
import CrateReadme.Text.Letter
import CrateReadme.Text.Numeral
import CrateReadme.Text.Power
import CrateReadme.Text.Printable
import CrateReadme.Text.Punycode
import CrateReadme.Text.Real
import CrateReadme.Text.Rounded
import CrateReadme.Text.Shortest
import CrateReadme.Text.Utf8
import CrateReadme.Text.Wrap
import CrateReadme.Version.Basic
import CrateReadme.Version.Requirement
import CrateReadme.Proofs.Version.Interval
import CrateReadme.Proofs.Cbor.RoundTrip
import CrateReadme.Proofs.Text.Base64
import CrateReadme.Proofs.Text.Decimal
import CrateReadme.Proofs.Text.Line
import CrateReadme.Proofs.Version.Spelling
import CrateReadme.Proofs.Version.Precedence
import CrateReadme.Proofs.Snapshot.RoundTrip
import CrateReadme.Proofs.Snapshot.Recording
import CrateReadme.Proofs.Link.Trace
import CrateReadme.Proofs.Readme.Freshness
import CrateReadme.Proofs.Source.Stretch
import CrateReadme.Proofs.Source.Nesting
import CrateReadme.Proofs.Source.Partition
import CrateReadme.Proofs.Source.Cursor
import CrateReadme.Proofs.Source.Safety
import CrateReadme.Proofs.Source.Spelling
import CrateReadme.Proofs.Source.Locality
import CrateReadme.Proofs.Source.LineBreak
import CrateReadme.Proofs.Source.Faces
import CrateReadme.Proofs.Source.Heads
import CrateReadme.Proofs.Source.UseTree
import CrateReadme.Proofs.Source.Items
import CrateReadme.Proofs.Source.Reading
import CrateReadme.Proofs.Markdown.Definition
import CrateReadme.Proofs.Markdown.Entries
import CrateReadme.Proofs.Markdown.Extent
import CrateReadme.Proofs.Markdown.Arrival
import CrateReadme.Proofs.Markdown.Document
import CrateReadme.Proofs.Markdown.Destination
import CrateReadme.Proofs.Markdown.Anchor
import CrateReadme.Proofs.Markdown.CodeBlock
import CrateReadme.Proofs.Markdown.Fence
import CrateReadme.Proofs.Markdown.Spelling
import CrateReadme.Proofs.Markdown.Balance
import CrateReadme.Proofs.Markdown.Construct
import CrateReadme.Proofs.Markdown.Reference
import CrateReadme.Proofs.Markdown.Occurrence
import CrateReadme.Proofs.Readme.Definitions
import CrateReadme.Proofs.Scope.Import
import CrateReadme.Proofs.Scope.Privacy
import CrateReadme.Proofs.Scope.Kinds
import CrateReadme.Proofs.Text.Utf8
import CrateReadme.Proofs.Link.Reference
import CrateReadme.Proofs.Link.Qualified
import CrateReadme.Proofs.Readme.Token
import CrateReadme.Proofs.Files.Store
import CrateReadme.Proofs.Command.Effects
import CrateReadme.Proofs.Command.Gathering
import CrateReadme.Proofs.Command.Output
import CrateReadme.Proofs.Snapshot.Reading
import CrateReadme.Proofs.Link.Run
import CrateReadme.Proofs.Scope.History
import CrateReadme.Proofs.Source.DocLine
import CrateReadme.Proofs.Markdown.PlainLine
import CrateReadme.Proofs.Markdown.HiddenLine
import CrateReadme.Proofs.Markdown.Outline
import CrateReadme.Proofs.Snapshot.Order
import CrateReadme.Proofs.Version.Notation
import CrateReadme.Proofs.Link.Grammar
import CrateReadme.Proofs.Scope.Grouping
import CrateReadme.Proofs.Diagnostic.Report
import CrateReadme.Proofs.Source.Fault
import CrateReadme.Proofs.Source.Respelling
import CrateReadme.Proofs.Source.RawName
import CrateReadme.Proofs.Link.RawName
import CrateReadme.Proofs.Source.Indentation
import CrateReadme.Proofs.Config.Precedence
import CrateReadme.Proofs.Package.Table
