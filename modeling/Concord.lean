import Concord.CommandLine.Invocation
import Concord.CommandLine.Usage
import Concord.CommandLine.Word
import Concord.Coverage
import Concord.Coverage.Expected
import Concord.Coverage.Report
import Concord.DataFile
import Concord.Declaration
import Concord.Declaration.Body
import Concord.Declaration.Head
import Concord.Declaration.Header
import Concord.Declaration.Member
import Concord.Dependency
import Concord.Document
import Concord.Document.Fence
import Concord.Document.File
import Concord.Document.Reading
import Concord.Document.Title
import Concord.Fault
import Concord.Import
import Concord.Instant
import Concord.Issue
import Concord.Log
import Concord.Main
import Concord.Naming
import Concord.Naming.Similarity
import Concord.Number.Binary64
import Concord.Number.Decimal
import Concord.Path
import Concord.Pattern
import Concord.Pattern.Escape
import Concord.Pattern.Lexeme
import Concord.Pattern.Reader
import Concord.Pattern.Refusal
import Concord.Pattern.Search
import Concord.Proofs.Coverage
import Concord.Proofs.Coverage.Accounting
import Concord.Proofs.Coverage.Repair
import Concord.Proofs.Coverage.Suggestions
import Concord.Proofs.Declaration.Enumerations
import Concord.Proofs.Declaration.Fields
import Concord.Proofs.Declaration.Headers
import Concord.Proofs.Declaration.Heads
import Concord.Proofs.Declaration.LineBreaks
import Concord.Proofs.Declaration.Lists
import Concord.Proofs.Declaration.Masked
import Concord.Proofs.Declaration.Members
import Concord.Proofs.Declaration.Opening
import Concord.Proofs.Declaration.Outlines
import Concord.Proofs.Declaration.Places
import Concord.Proofs.Declaration.Printed
import Concord.Proofs.Declaration.Properties
import Concord.Proofs.Declaration.RoundTrip
import Concord.Proofs.Declaration.Scripts
import Concord.Proofs.Declaration.Services
import Concord.Proofs.Declaration.Signatures
import Concord.Proofs.Declaration.TypeParameters
import Concord.Proofs.Dependency.Components
import Concord.Proofs.Dependency.Contracts
import Concord.Proofs.Dependency.Walk
import Concord.Proofs.Document.Blocks
import Concord.Proofs.Document.Manuscript
import Concord.Proofs.Document.Positions
import Concord.Proofs.Document.Reading
import Concord.Proofs.Fault
import Concord.Proofs.Import.Statements
import Concord.Proofs.Naming.Audit
import Concord.Proofs.Naming.Conventions
import Concord.Proofs.Naming.Findings
import Concord.Proofs.Naming.Similarity
import Concord.Proofs.Number
import Concord.Proofs.Occurrence
import Concord.Proofs.Report
import Concord.Proofs.Report.Payload
import Concord.Proofs.Report.Text
import Concord.Proofs.Resolution
import Concord.Proofs.Resolution.Usage
import Concord.Proofs.Run
import Concord.Proofs.Schema
import Concord.Proofs.Settings
import Concord.Proofs.Settings.Composition
import Concord.Proofs.Settings.RoundTrip
import Concord.Proofs.Shape.Accounting
import Concord.Proofs.Shape.Agreement
import Concord.Proofs.Shape.Baseline
import Concord.Proofs.Shape.Direction
import Concord.Proofs.Shape.Findings
import Concord.Proofs.Shape.Repeats
import Concord.Proofs.Source.Alignment
import Concord.Proofs.Source.Brackets
import Concord.Proofs.Source.Comments
import Concord.Proofs.Source.Depth
import Concord.Proofs.Source.Fillings
import Concord.Proofs.Source.Joining
import Concord.Proofs.Source.Literals
import Concord.Proofs.Source.Masking
import Concord.Proofs.Source.Matching
import Concord.Proofs.Source.MemberStart
import Concord.Proofs.Source.Members
import Concord.Proofs.Source.Nested
import Concord.Proofs.Source.Region
import Concord.Proofs.Source.Scanning
import Concord.Proofs.Source.Splitting
import Concord.Proofs.Source.Types
import Concord.Proofs.Storage
import Concord.Proofs.Storage.Expansion
import Concord.Proofs.Text.Collapse
import Concord.Proofs.Text.Lines
import Concord.Proofs.Text.Runs
import Concord.Proofs.Text.Utf8
import Concord.Proofs.Text.Words
import Concord.Proofs.TypeName.Agreement
import Concord.Proofs.TypeName.Conditional
import Concord.Proofs.TypeName.Literals
import Concord.Proofs.TypeName.References
import Concord.Proofs.Value.Entries
import Concord.Proofs.Value.Json.Canonical
import Concord.Proofs.Value.Json.Reader
import Concord.Proofs.Value.Json.Token
import Concord.Proofs.Value.Json.Writer
import Concord.Proofs.Verification.Findings
import Concord.Proofs.Verification.Independence
import Concord.Proofs.Verification.Order
import Concord.Proofs.Verification.Places
import Concord.Proofs.Verification.Verdict
import Concord.Readers
import Concord.Report
import Concord.Report.Text
import Concord.Resolution
import Concord.Run
import Concord.Run.Context
import Concord.Schema
import Concord.Schema.Catalog
import Concord.Schema.Published
import Concord.Settings
import Concord.Settings.File
import Concord.Settings.Overlay
import Concord.Shape
import Concord.Source.Location
import Concord.Source.Matching
import Concord.Source.Members
import Concord.Source.Span
import Concord.Source.Views
import Concord.Storage
import Concord.Storage.Expansion
import Concord.Storage.NamePattern
import Concord.Template
import Concord.Text.Blank
import Concord.Text.Case
import Concord.Text.Caseless
import Concord.Text.DecimalDigit
import Concord.Text.Identifier
import Concord.Text.Integer
import Concord.Text.Lines
import Concord.Text.Name
import Concord.Text.Pieces
import Concord.Text.Printable
import Concord.Text.Quoted
import Concord.Text.Utf8
import Concord.Text.WordCharacter
import Concord.TypeName
import Concord.Value
import Concord.Value.Display
import Concord.Value.Json.Reader
import Concord.Value.Json.Token
import Concord.Value.Json.Writer
import Concord.Value.Yaml.Cursor
import Concord.Value.Yaml.Lexer
import Concord.Value.Yaml.Node
import Concord.Value.Yaml.Reader
import Concord.Value.Yaml.Refusal
import Concord.Value.Yaml.Resolution
import Concord.Value.Yaml.Scalar
import Concord.Value.Yaml.Token
import Concord.Verification
import Concord.Workspace
