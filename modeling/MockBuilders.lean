import MockBuilders.Main
import MockBuilders.Proofs.Graph.Reachability
import MockBuilders.Proofs.Inlining.Success
import MockBuilders.Settings.Json
import MockBuilders.Settings.Written
import MockBuilders.Proofs.Inlining.Cycles
import MockBuilders.Proofs.Emission.Decisions
import MockBuilders.Proofs.Generation.Outcome
import MockBuilders.Proofs.Json.Reordering
import MockBuilders.Proofs.Json.Decoding
import MockBuilders.Proofs.Decimal.Rounding
import MockBuilders.Proofs.Decimal.ReadBack
import MockBuilders.Proofs.Json.CanonicalText
import MockBuilders.Proofs.Json.Alike
import MockBuilders.Proofs.Schema.Alike
import MockBuilders.Proofs.Schema.Outline
import MockBuilders.Proofs.Schema.KeyOrder
import MockBuilders.Proofs.Inlining.KeyOrder
import MockBuilders.Proofs.Generation.KeyOrder
import MockBuilders.Proofs.Decimal.Nearest
import MockBuilders.Proofs.Json.Reading
import MockBuilders.Proofs.Inlining.Replacement
import MockBuilders.Proofs.Schema.Leftovers
import MockBuilders.Proofs.Generation.Leftovers
import MockBuilders.Proofs.Emission.Accounting
import MockBuilders.Proofs.Emission.Interchange
import MockBuilders.Proofs.Schema.Stability
import MockBuilders.Proofs.Schema.FixedPoint
import MockBuilders.Proofs.Schema.References
import MockBuilders.Proofs.Inlining.LeftInPlace
import MockBuilders.Proofs.Emission.TopLevel
import MockBuilders.Proofs.Emission.Identifiers
import MockBuilders.Proofs.Inlining.ReportedCycle
import MockBuilders.Proofs.Resolver.Termination
import MockBuilders.Proofs.Resolver.History
import MockBuilders.Proofs.Generation.Dangling
import MockBuilders.Graph.Search
import MockBuilders.Proofs.Graph.Shortest
import MockBuilders.Proofs.Graph.Search
import MockBuilders.Graph.Components
import MockBuilders.Proofs.Graph.CycleLists
import MockBuilders.Proofs.Graph.Components
import MockBuilders.Proofs.Schema.Merging
import MockBuilders.Proofs.Schema.KeptBeside
import MockBuilders.Proofs.Schema.MergedType
import MockBuilders.Proofs.Members.Union
import MockBuilders.Proofs.Schema.MergedObject
import MockBuilders.Proofs.Schema.Nesting
import MockBuilders.Proofs.Schema.Enumerations
import MockBuilders.Proofs.Schema.Marks
import MockBuilders.Proofs.Schema.Intersections
import MockBuilders.Proofs.Json.Location
import MockBuilders.Proofs.Schema.Malformed
import MockBuilders.Proofs.Emission.Properties
import MockBuilders.Proofs.Members.Gaps
import MockBuilders.Proofs.Pointer.Escapes
import MockBuilders.Proofs.Schema.ExtensionOrder
import MockBuilders.Proofs.Toml.Quoting
import MockBuilders.Proofs.Toml.Statements
import MockBuilders.Proofs.Toml.Documents
import MockBuilders.Proofs.Toml.Words
import MockBuilders.Proofs.Files.Writing
import MockBuilders.Proofs.Settings.Saved
import MockBuilders.Proofs.Settings.Layering
import MockBuilders.Proofs.Settings.Reloading
import MockBuilders.Proofs.Graph.Drawing
import MockBuilders.Proofs.Files.Resolution
import MockBuilders.Proofs.CommandLine.Steps
import MockBuilders.Proofs.CommandLine.Index
import MockBuilders.Proofs.CommandLine.ExportedModule
