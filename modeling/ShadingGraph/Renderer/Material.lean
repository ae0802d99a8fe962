import ShadingGraph.Filter.Chain
import ShadingGraph.Network.Listing
import ShadingGraph.Renderer.Sink
import ShadingGraph.Shading.Conversion

/-!
# Materials

A material owns at most two networks of a sink: one that its surface and volume terminals share, and
one for its displacement terminal. A sync brings them in line with a material network: terminals
that convert are committed in order, and a network that no terminal feeds any more is deleted.

## Main definitions

- `SyncSettings` — what a sync needs besides the network and the registry
- `terminalKind?` — the network that a terminal feeds
- `SyncError`, `SyncReport` — what a sync reports
- `Material` — the ids that a material holds and the network last synced
- `Material.sync`, `Material.finalize` — bringing the networks in line, and removing them
-/

namespace ShadingGraph

/-- The acceptable source types, the filters that run before a conversion, and the formats of
images. -/
structure SyncSettings where
  sourceTypes : List String
  filters : FilterChain
  /-- Whether the renderer reads the file at a path through its plugin for images. -/
  isImage : String → Bool

namespace SyncSettings

/-- The source types that are accepted where none are configured: first shaders in the Open Shading
Language, then plugins. -/
def standardSourceTypes : List String := [oslSource, pluginSource]

/-- The settings that are used where none are configured. -/
def standard (isImage : String → Bool) : SyncSettings :=
  ⟨standardSourceTypes, FilterChain.standard, isImage⟩

/-- What filters and conversions of a sync know. -/
def catalog (settings : SyncSettings) (registry : ShaderRegistry) : ShaderCatalog :=
  ⟨registry, settings.sourceTypes, settings.isImage⟩

end SyncSettings

/-- A problem of a sync. None of them stops the sync. -/
inductive SyncError where
  /-- The resource is no material network. -/
  | unexpectedResource (material : String)
  /-- Filters reported problems; the network was used all the same. -/
  | filter (material : String) (problems : List String)
  /-- The node of a terminal could not be converted. -/
  | conversion (material terminal : String) (cause : ConversionError)
  /-- The sink created no network. -/
  | createFailed (material : String) (kind : NetworkKind)
deriving DecidableEq

/-- The message of a sync error. -/
def SyncError.message : SyncError → String
  | .unexpectedResource material =>
    "Expected material resource for <" ++ material ++ "> to contain a material network"
  | .filter material problems =>
    "Filters reported errors for <" ++ material ++ ">: " ++ "; ".intercalate problems
  | .conversion material terminal cause =>
    "Failed to convert nodes for <" ++ material ++ "> terminal '" ++ terminal ++ "': " ++
      cause.message
  | .createFailed material kind =>
    "Failed to create " ++ kind.token ++ " network for <" ++ material ++ ">"

/-- The outcome of a sync. -/
structure SyncReport where
  /-- The terminals that were committed, with the network they went to. -/
  committed : List (String × NetworkKind)
  /-- The networks that were deleted because no terminal feeds them any more. -/
  deleted : List NetworkKind
  errors : List SyncError
deriving DecidableEq

namespace SyncReport

/-- Nothing done and nothing wrong. -/
def empty : SyncReport := ⟨[], [], []⟩

instance : Inhabited SyncReport := ⟨empty⟩

/-- Whether there were no problems. -/
def isClean (r : SyncReport) : Bool := r.errors.isEmpty

/-- Adds a committed terminal. -/
def commit (r : SyncReport) (terminal : String) (kind : NetworkKind) : SyncReport :=
  { r with committed := r.committed ++ [(terminal, kind)] }

/-- Adds a deleted network. -/
def delete (r : SyncReport) (kind : NetworkKind) : SyncReport :=
  { r with deleted := r.deleted ++ [kind] }

/-- Adds a problem. -/
def fail (r : SyncReport) (e : SyncError) : SyncReport := { r with errors := r.errors ++ [e] }

end SyncReport

/-- What the renderer holds for one material. -/
structure Material where
  /-- The path of the material. -/
  id : String
  /-- The network last synced, as the filters left it. -/
  network : MaterialNetwork
  /-- The id of the surface and volume network. -/
  materialId : NetworkId
  /-- The id of the displacement network. -/
  displacementId : NetworkId
deriving DecidableEq

/-- The network that a terminal feeds; lights and unknown terminals feed none. -/
def terminalKind? : String → Option NetworkKind
  | "surface" | "volume" => some .material
  | "displacement" => some .displacement
  | _ => none

namespace Material

/-- A material without networks. -/
def new (id : String) : Material := ⟨id, ∅, .invalid, .invalid⟩

/-- Whether the material has a surface and volume network. -/
def isValid (m : Material) : Bool := m.materialId.isValid

/-- The id of the network of a kind. -/
def slot (m : Material) : NetworkKind → NetworkId
  | .material => m.materialId
  | .displacement => m.displacementId

/-- The material with another id for the network of a kind. -/
def setSlot (m : Material) (kind : NetworkKind) (id : NetworkId) : Material :=
  match kind with
  | .material => { m with materialId := id }
  | .displacement => { m with displacementId := id }

/-- Replaces the nodes of the network of a kind, or creates the network if there is none. -/
def commit (m : Material) (sink : NetworkSink) (kind : NetworkKind) (nodes : List ShadingNode) :
    Material × NetworkSink :=
  if (m.slot kind).isValid then (m, sink.modify kind (m.slot kind) nodes)
  else
    let r := sink.create kind nodes
    (m.setSlot kind r.1, r.2)

/-- Deletes the network of a kind, if there is one. -/
def release (m : Material) (sink : NetworkSink) (kind : NetworkKind) : Material × NetworkSink :=
  if (m.slot kind).isValid then (m.setSlot kind .invalid, sink.delete kind (m.slot kind))
  else (m, sink)

end Material

/-- A sync under way. -/
structure SyncState where
  material : Material
  sink : NetworkSink
  report : SyncReport
  /-- The networks that a terminal feeds. -/
  fed : List NetworkKind

namespace SyncState

/-- Deals with one terminal: a conversion that fails is reported, a network is committed for a
terminal that feeds one, and other terminals are passed over. -/
def terminal (c : ShaderCatalog) (net : MaterialNetwork) (s : SyncState)
    (entry : String × Connection) : SyncState :=
  match c.convert net entry.2.node with
  | .error cause =>
    { s with report := s.report.fail (.conversion s.material.id entry.1 cause) }
  | .ok nodes =>
    match terminalKind? entry.1 with
    | none => s
    | some kind =>
      let r := s.material.commit s.sink kind nodes
      { material := r.1
        sink := r.2
        report :=
          if (r.1.slot kind).isValid then s.report.commit entry.1 kind
          else s.report.fail (.createFailed s.material.id kind)
        fed := kind :: s.fed }

/-- Deletes the network of a kind, if there is one and no terminal feeds it. -/
def releaseUnfed (s : SyncState) (kind : NetworkKind) : SyncState :=
  if kind ∈ s.fed then s
  else
    let r := s.material.release s.sink kind
    { s with
      material := r.1
      sink := r.2
      report := if (s.material.slot kind).isValid then s.report.delete kind else s.report }

/-- Deletes what no terminal feeds, the surface and volume network first. -/
def releaseAll (s : SyncState) : SyncState :=
  (s.releaseUnfed .material).releaseUnfed .displacement

end SyncState

namespace Material

/-- The report on the problems of the filters, which is one error if there are any. -/
def filterReport (m : Material) (problems : List String) : SyncReport :=
  if problems.isEmpty then .empty else SyncReport.empty.fail (.filter m.id problems)

/-- Brings the networks of the material in line with a resource. A resource that is no material
network leaves none of them. -/
def sync (m : Material) (resource : Option MaterialNetwork) (registry : ShaderRegistry)
    (settings : SyncSettings) (sink : NetworkSink) : SyncState :=
  match resource with
  | none =>
    { material := m
      sink
      report := SyncReport.empty.fail (.unexpectedResource m.id)
      fed := [] : SyncState }.releaseAll
  | some resource =>
    let c := settings.catalog registry
    let filtered := settings.filters.execute c m.id resource
    let done :=
      (filtered.1.terminals.entries.foldl (SyncState.terminal c filtered.1)
        { material := m, sink, report := m.filterReport filtered.2, fed := [] }).releaseAll
    { done with material := { done.material with network := filtered.1 } }

/-- Deletes the networks of the material. -/
def finalize (m : Material) (sink : NetworkSink) : SyncState :=
  { material := m, sink, report := .empty, fed := [] : SyncState }.releaseAll

end Material

end ShadingGraph
