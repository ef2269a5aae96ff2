import CrdToolset.Files.Tree
import CrdToolset.Main
import CrdToolset.Report
import CrdToolset.Proofs.Keyed
import CrdToolset.Proofs.Outcome
import CrdToolset.Proofs.Schema.Everywhere
import CrdToolset.Proofs.TypeGraph.Address
import CrdToolset.Proofs.TypeGraph.PostOrder
import CrdToolset.Proofs.TypeGraph.Visit
import CrdToolset.Proofs.TypeGraph.Shape
import CrdToolset.Proofs.TypeGraph.Calls
import CrdToolset.Proofs.TypeGraph.Gains
import CrdToolset.Proofs.Schema.Reordered
import CrdToolset.Proofs.Toolset.Reordered
import CrdToolset.Proofs.TypeGraph.Separation
import CrdToolset.Proofs.Schema.Reader
import CrdToolset.Proofs.TypeGraph.Model
import CrdToolset.Proofs.Go.Equations
import CrdToolset.Proofs.Ascending
import CrdToolset.Proofs.Go.SchemaLiteral
import CrdToolset.Proofs.Go.Agreement
import CrdToolset.Proofs.FirstOccurrences
import CrdToolset.Proofs.TypeGraph.ObjectTypes
import CrdToolset.Proofs.Go.Names
import CrdToolset.Proofs.Naming.Humps
import CrdToolset.Proofs.Toolset.Closed
import CrdToolset.Proofs.Naming.Carries
import CrdToolset.Proofs.Naming.Plural
import CrdToolset.Proofs.Toolset.ToolNames
import CrdToolset.Proofs.Operation
import CrdToolset.Proofs.TypeGraph.ObjectNames
import CrdToolset.Proofs.Toolset.Declarations
import CrdToolset.Proofs.Toolset.Identifiers
import CrdToolset.Proofs.TypeGraph.Acceptance
import CrdToolset.Proofs.TypeGraph.Depth
import CrdToolset.Proofs.TypeGraph.Faults
import CrdToolset.Proofs.TypeGraph.Matching
import CrdToolset.Proofs.TypeGraph.Isolation
import CrdToolset.Proofs.TypeGraph.Parts
import CrdToolset.Proofs.Toolset.Isolation
import CrdToolset.Proofs.Generation
import CrdToolset.Proofs.CommandLine.Directory
import CrdToolset.Proofs.Naming.Idempotence
import CrdToolset.Proofs.TypeGraph.Retry
import CrdToolset.Proofs.Toolset.LineBreaks
import CrdToolset.Proofs.Toolset.StructLines
import CrdToolset.Proofs.Naming.PluralRoundTrip
import CrdToolset.Proofs.Go.StringLiteral
import CrdToolset.Proofs.Number.Characters
import CrdToolset.Proofs.Go.Layout
import CrdToolset.Proofs.Go.LiteralLayout
import CrdToolset.Proofs.Go.SameLiterals
import CrdToolset.Proofs.Go.Flattened
import CrdToolset.Proofs.Go.Wrapping
import CrdToolset.Proofs.Text.ByteOrder
import CrdToolset.Proofs.TypeGraph.FieldOrder
import CrdToolset.Proofs.Toolset.WithoutComments
import CrdToolset.Proofs.Naming.SmallLetters
import CrdToolset.Proofs.Selection
import CrdToolset.Proofs.Resource.Definition
import CrdToolset.Proofs.Go.PastedText
import CrdToolset.Proofs.Toolset.PastedLiterals
import CrdToolset.Proofs.Naming.Boundaries
import CrdToolset.Proofs.Files.Path
import CrdToolset.Proofs.Files.Find
import CrdToolset.Proofs.Number.Nearest
import CrdToolset.Proofs.Number.Shortest
import CrdToolset.Proofs.JsonText
import CrdToolset.Proofs.Go.AllowedValues
