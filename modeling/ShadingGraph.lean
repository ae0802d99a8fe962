import ShadingGraph.Command.ImageFormats
import ShadingGraph.Command.Program
import ShadingGraph.Files.Tree
import ShadingGraph.Main
import ShadingGraph.Proofs.Command.Arguments
import ShadingGraph.Proofs.Command.Outcome
import ShadingGraph.Proofs.Command.WrittenSettings
import ShadingGraph.Proofs.FileReferences
import ShadingGraph.Proofs.Files.Path
import ShadingGraph.Proofs.Files.Place
import ShadingGraph.Proofs.Filter.Dependencies
import ShadingGraph.Proofs.Filter.Expansion
import ShadingGraph.Proofs.Filter.Nesting
import ShadingGraph.Proofs.Loading
import ShadingGraph.Proofs.Network.PostOrder
import ShadingGraph.Proofs.Network.Traversal
import ShadingGraph.Proofs.Number.Rounding
import ShadingGraph.Proofs.Number.Shortest
import ShadingGraph.Proofs.OrderedMap
import ShadingGraph.Proofs.Package
import ShadingGraph.Proofs.Registry.History
import ShadingGraph.Proofs.Renderer.Accounting
import ShadingGraph.Proofs.Renderer.CallProtocol
import ShadingGraph.Proofs.Renderer.Holdings
import ShadingGraph.Proofs.Renderer.Isolation
import ShadingGraph.Proofs.Renderer.Ownership
import ShadingGraph.Proofs.Renderer.Reconciliation
import ShadingGraph.Proofs.Renderer.Replay
import ShadingGraph.Proofs.Renderer.Scene
import ShadingGraph.Proofs.Renderer.Sink
import ShadingGraph.Proofs.Renderer.Sync
import ShadingGraph.Proofs.Ron.Construct
import ShadingGraph.Proofs.Ron.Layout
import ShadingGraph.Proofs.Ron.NumberLiteral
import ShadingGraph.Proofs.Ron.RoundTrip
import ShadingGraph.Proofs.Ron.StringLiteral
import ShadingGraph.Proofs.Settings
import ShadingGraph.Proofs.Shading.Arrays
import ShadingGraph.Proofs.Shading.Assets
import ShadingGraph.Proofs.Shading.Handles
import ShadingGraph.Proofs.Shading.Implementations
import ShadingGraph.Proofs.Shading.Locality
import ShadingGraph.Proofs.Shading.Merge
import ShadingGraph.Proofs.Shading.NodeConversion
import ShadingGraph.Proofs.Shading.Options
import ShadingGraph.Proofs.Shading.Outcome
import ShadingGraph.Proofs.Shading.Provenance
import ShadingGraph.Proofs.Shading.References
import ShadingGraph.Proofs.Shading.StepCount
import ShadingGraph.Proofs.Shading.Walk
