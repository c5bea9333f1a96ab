import SchemaBinding.Text.Quoted
import SchemaBinding.Text.Alphabetic
import SchemaBinding.Text.Numeric
import SchemaBinding.Number.FloatFormat
import SchemaBinding.Number.FloatLexical
import SchemaBinding.Number.Shortest
import SchemaBinding.Number.FloatText
import SchemaBinding.Number.Integer
import SchemaBinding.Naming.Derived
import SchemaBinding.Markup.Escape
import SchemaBinding.Markup.Tag
import SchemaBinding.Markup.Construct
import SchemaBinding.Markup.Event
import SchemaBinding.Schema.Lexical
import SchemaBinding.Schema.Fault
import SchemaBinding.Schema.Declaration
import SchemaBinding.Schema.Reading
import SchemaBinding.Model.OfSchema
import SchemaBinding.FixedValue.Pass
import SchemaBinding.Generation
import SchemaBinding.CommandLine.Directory
import SchemaBinding.CommandLine.Run
import SchemaBinding.Main
import SchemaBinding.Model.Edit
import SchemaBinding.Proofs.FixedValue.ClosedForm
import SchemaBinding.Proofs.FixedValue.Typing
import SchemaBinding.Proofs.FixedValue.Abort
import SchemaBinding.Proofs.FixedValue.Idempotence
import SchemaBinding.Proofs.FixedValue.Diagnostics
import SchemaBinding.Proofs.Content.Instance
import SchemaBinding.Proofs.Content.Presence
import SchemaBinding.Proofs.Document.Writing
import SchemaBinding.Proofs.Document.Tags
import SchemaBinding.Proofs.Document.RoundTrip
import SchemaBinding.Proofs.Document.Nesting
import SchemaBinding.Proofs.Document.Truncation
import SchemaBinding.Proofs.Markup.Continuation
import SchemaBinding.Proofs.Markup.Parts
import SchemaBinding.Proofs.Document.Transparency
import SchemaBinding.Proofs.Document.EmptyElements
import SchemaBinding.Proofs.Content.Paths
import SchemaBinding.Proofs.Model.Correspondence
import SchemaBinding.Proofs.Model.TypeNames
import SchemaBinding.Proofs.Model.Lookups
import SchemaBinding.Proofs.Model.FieldNames
import SchemaBinding.Proofs.Model.AddedElement
import SchemaBinding.Proofs.Model.References
import SchemaBinding.Proofs.Source.Blocks
import SchemaBinding.Proofs.Source.Rendering
import SchemaBinding.Proofs.Source.FieldTypes
import SchemaBinding.Proofs.Naming.PascalCase
import SchemaBinding.Proofs.Source.LineBreaks
import SchemaBinding.Proofs.Document.DistinctNames
import SchemaBinding.Proofs.Model.TypeClashes
import SchemaBinding.Proofs.Model.DeclarationOrder
import SchemaBinding.Proofs.Model.Growth
import SchemaBinding.Proofs.Model.WriteOnce
import SchemaBinding.Proofs.Naming.ConstantNames
import SchemaBinding.Proofs.Naming.Identifiers
import SchemaBinding.Proofs.Source.Refusals
import SchemaBinding.Proofs.Source.ClassLines
import SchemaBinding.Proofs.Source.WrittenDefaults
import SchemaBinding.Proofs.Text.StringLiteral
import SchemaBinding.Proofs.Source.EnumConversions
import SchemaBinding.Proofs.FixedValue.SharedSlot
import SchemaBinding.Proofs.Number.FloatGrammar
import SchemaBinding.Proofs.Schema.Additions
import SchemaBinding.Proofs.Schema.Components
import SchemaBinding.Proofs.Naming.SnakeForm
import SchemaBinding.Proofs.Document.Extent
import SchemaBinding.Proofs.Source.CodeLiterals
