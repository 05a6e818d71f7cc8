import SchemaNotation.Text.Span
import SchemaNotation.Text.Alnum
import SchemaNotation.Text.Cased
import SchemaNotation.Text.Case
import SchemaNotation.Text.Blank
import SchemaNotation.Text.Lines
import SchemaNotation.Text.Integer
import SchemaNotation.Schema.DataType
import SchemaNotation.Schema.Field
import SchemaNotation.Schema.Relationship
import SchemaNotation.Schema.Document
import SchemaNotation.Schema.Error
import SchemaNotation.Text.Search
import SchemaNotation.Notation.Nesting
import SchemaNotation.Notation.Identifier
import SchemaNotation.Notation.TypeExpr
import SchemaNotation.Notation.Constraint
import SchemaNotation.Notation.FieldLine
import SchemaNotation.Notation.RelationshipLine
import SchemaNotation.Notation.Layout
import SchemaNotation.Notation.Reader
import SchemaNotation.Json.Value
import SchemaNotation.Json.Model
import SchemaNotation.Schema.Resolve
import SchemaNotation.Render.Format
import SchemaNotation.Render.Diagram
import SchemaNotation.Render.Statistics
import SchemaNotation.Check.Issue
import SchemaNotation.Check.Rules
import SchemaNotation.Check.Relationships
import SchemaNotation.Check.Fields
import SchemaNotation.Check.Advice
import SchemaNotation.Check.Report
import SchemaNotation.Digest.Sha256
import SchemaNotation.Text.Printable
import SchemaNotation.Text.Quote
import SchemaNotation.Files.Path
import SchemaNotation.Settings.Basic
import SchemaNotation.Files.Utf8
import SchemaNotation.Settings.Dotenv
import SchemaNotation.Json.Report
import SchemaNotation.Files.Workspace
import SchemaNotation.Terminal.CellWidth
import SchemaNotation.Terminal.EmojiTable
import SchemaNotation.Terminal.Emoji
import SchemaNotation.Terminal.Markup
import SchemaNotation.Command.Arguments
import SchemaNotation.Settings.Sources
import SchemaNotation.Command.Session
import SchemaNotation.Command.Run
import SchemaNotation.Main
import SchemaNotation.Proofs.LineFaults
import SchemaNotation.Proofs.LineAgreement
import SchemaNotation.Proofs.ReaderAgreement
import SchemaNotation.Proofs.FirstFault
import SchemaNotation.Proofs.TopLevel
import SchemaNotation.Proofs.NumberSpelling
import SchemaNotation.Proofs.TypeSurface
import SchemaNotation.Proofs.TypeSpelling
import SchemaNotation.Proofs.InheritanceCycles
import SchemaNotation.Proofs.Findings
import SchemaNotation.Proofs.TypeReferences
import SchemaNotation.Proofs.ReadFields
import SchemaNotation.Proofs.MissingEntities
import SchemaNotation.Proofs.ConstraintItems
import SchemaNotation.Proofs.ConstraintGroups
import SchemaNotation.Proofs.InlineComment
import SchemaNotation.Proofs.PassReports
import SchemaNotation.Proofs.Tallies
import SchemaNotation.Proofs.Resolution
import SchemaNotation.Proofs.TypeShapes
import SchemaNotation.Proofs.StructureErrors
import SchemaNotation.Proofs.FieldColumns
import SchemaNotation.Proofs.DiagramTokens
import SchemaNotation.Proofs.ForeignKeyLinks
import SchemaNotation.Proofs.ReadForms
import SchemaNotation.Proofs.LineText
import SchemaNotation.Proofs.RelationshipLines
import SchemaNotation.Proofs.PlainGroups
import SchemaNotation.Proofs.FieldParts
