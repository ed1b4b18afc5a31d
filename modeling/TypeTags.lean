import TypeTags.Assoc
import TypeTags.Attribution
import TypeTags.Command.Arguments
import TypeTags.Command.Invocation
import TypeTags.Command.Run
import TypeTags.Command.Session
import TypeTags.Declaration
import TypeTags.Diagnostic
import TypeTags.Docstring
import TypeTags.Enrichment
import TypeTags.Fault
import TypeTags.Json.Basic
import TypeTags.Json.Binary64
import TypeTags.Json.Reader
import TypeTags.Json.Shown
import TypeTags.Json.Writer
import TypeTags.Main
import TypeTags.Merge
import TypeTags.Outline.Bytes
import TypeTags.Outline.Tree
import TypeTags.Outline.Walk
import TypeTags.Path
import TypeTags.Proofs.Assoc.KeyOrder
import TypeTags.Proofs.Attribution.Absorb
import TypeTags.Proofs.Attribution.Accounting
import TypeTags.Proofs.Attribution.History
import TypeTags.Proofs.Segment.DoBlock
import TypeTags.Proofs.Segment.Words
import TypeTags.Proofs.Signature.Block
import TypeTags.Proofs.Signature.Lines
import TypeTags.Proofs.Signature.Moved
import TypeTags.Proofs.Signature.Reading
import TypeTags.Proofs.Token.Cutting
import TypeTags.Proofs.Token.Joined
import TypeTags.Proofs.Token.Literals
import TypeTags.Proofs.TypeExpr.RoundTrip
import TypeTags.Proofs.TypeExpr.Spelling
import TypeTags.Registry.Assembly
import TypeTags.Registry.Basic
import TypeTags.Registry.Document
import TypeTags.Report.Cells
import TypeTags.Report.ColourTable
import TypeTags.Report.Emoji
import TypeTags.Report.EmojiTable
import TypeTags.Report.Listing
import TypeTags.Report.Literal
import TypeTags.Report.Markup
import TypeTags.Report.Style
import TypeTags.Report.Table
import TypeTags.Report.Wrap
import TypeTags.Schema.Check
import TypeTags.Schema.IntegerText
import TypeTags.Schema.Models
import TypeTags.Schema.Types
import TypeTags.Segment.Basic
import TypeTags.Segment.Extent
import TypeTags.Settings.Basic
import TypeTags.Settings.EnvFile
import TypeTags.Settings.Load
import TypeTags.Settings.Reference
import TypeTags.Signature.Basic
import TypeTags.Signature.Fold
import TypeTags.Signature.Parse
import TypeTags.Signature.Parser
import TypeTags.Signature.TypeParser
import TypeTags.Tag
import TypeTags.Text.CharClass
import TypeTags.Text.LetterTable
import TypeTags.Text.Lines
import TypeTags.Text.Lowercase
import TypeTags.Text.LowercaseTable
import TypeTags.Text.NumeralTable
import TypeTags.Text.Quoted
import TypeTags.Text.Trim
import TypeTags.Text.UnprintableTable
import TypeTags.Text.UppercaseTable
import TypeTags.Text.WidthTable
import TypeTags.Token.Located
import TypeTags.Token.Piece
import TypeTags.TypeExpr
import TypeTags.Workspace.Basic
import TypeTags.Workspace.Glob
import TypeTags.Workspace.Location
import TypeTags.Workspace.PathPattern
import TypeTags.Workspace.Snapshot
import TypeTags.Proofs.Signature.Nesting
import TypeTags.Proofs.Segment.Brackets
import TypeTags.Proofs.Segment.BraceBlock
import TypeTags.Proofs.Signature.Sound
import TypeTags.Proofs.Attribution.Total
import TypeTags.Proofs.Token.Gaps
import TypeTags.Proofs.Signature.Twin
import TypeTags.Proofs.Signature.Respaced
import TypeTags.Proofs.Json.Scalars
import TypeTags.Proofs.Json.RoundTrip
import TypeTags.Proofs.Registry.Document
import TypeTags.Proofs.Attribution.Isolation
import TypeTags.Proofs.Registry.Redeclaration
import TypeTags.Proofs.Registry.Steps
import TypeTags.Proofs.Registry.Keeping
import TypeTags.Proofs.Registry.Docstrings
import TypeTags.Proofs.Enrichment.Composition
import TypeTags.Proofs.Merge.Placement
import TypeTags.Proofs.TypeExpr.Stability
import TypeTags.Proofs.Attribution.Settlement
import TypeTags.Proofs.Outline.Layout
import TypeTags.Proofs.Outline.Cover
import TypeTags.Proofs.Segment.LineReader
import TypeTags.Proofs.Outline.Decoding
import TypeTags.Proofs.Outline.Accounted
import TypeTags.Proofs.Signature.Shadowing
import TypeTags.Proofs.Registry.Repetition
import TypeTags.Proofs.Signature.Leftover
import TypeTags.Proofs.Signature.Accepted
import TypeTags.Proofs.TypeExpr.Declared
import TypeTags.Proofs.Signature.Written
import TypeTags.Proofs.Segment.Reach
import TypeTags.Proofs.Text.Trim
import TypeTags.Proofs.Segment.Coverage
import TypeTags.Proofs.Attribution.Comments
import TypeTags.Proofs.Segment.Replaced
import TypeTags.Proofs.Docstring.FreeText
import TypeTags.Proofs.Attribution.Magic
import TypeTags.Proofs.Token.Squeezed
import TypeTags.Proofs.Token.Span
import TypeTags.Proofs.TypeExpr.Verbatim
import TypeTags.Proofs.Signature.LineNumbers
import TypeTags.Proofs.Outline.Visibility
import TypeTags.Proofs.Outline.Stretches
import TypeTags.Proofs.Outline.Data
import TypeTags.Proofs.Path.Distinct
import TypeTags.Proofs.TypeExpr.Nodes
import TypeTags.Proofs.TypeExpr.Validated
import TypeTags.Proofs.Signature.Progress
import TypeTags.Proofs.Docstring.TypeTexts
import TypeTags.Proofs.TypeExpr.Rendered
import TypeTags.Proofs.Docstring.TagLine
import TypeTags.Proofs.Token.Lossless
import TypeTags.Proofs.Segment.Groups
import TypeTags.Proofs.Docstring.Places
