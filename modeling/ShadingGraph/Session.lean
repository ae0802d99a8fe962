import ShadingGraph.Json
import ShadingGraph.Package
import ShadingGraph.Renderer.Material

/-!
# Sessions

A session syncs one material into a sink of its own, possibly many times, and describes what it did
and what the sink holds, as a summary or as a JSON report.

## Main definitions

- `Session` — a material, its sink, and what its syncs need
- `Session.sync`, `Session.finalize` — the steps of a session
- `Session.listing`, `Session.summary`, `Session.report` — the descriptions
-/

namespace ShadingGraph

/-- One material with a sink of its own. -/
structure Session where
  material : Material
  sink : NetworkSink
  registry : ShaderRegistry
  settings : SyncSettings
  package : ShaderPackage

namespace Session

/-- A session of a material before its first sync. -/
def start (materialId : String) (registry : ShaderRegistry) (settings : SyncSettings)
    (package : ShaderPackage) : Session :=
  ⟨.new materialId, .empty false, registry, settings, package⟩

/-- The session behind a step of its material. -/
def after (s : Session) (step : SyncState) : Session × SyncReport :=
  ({ s with material := step.material, sink := step.sink }, step.report)

/-- Brings the networks of the material in line with a resource. -/
def sync (s : Session) (resource : Option MaterialNetwork) : Session × SyncReport :=
  s.after (s.material.sync resource s.registry s.settings s.sink)

/-- Deletes the networks of the material. -/
def finalize (s : Session) : Session × SyncReport := s.after (s.material.finalize s.sink)

/-- The listing of the network last synced. -/
def listing (s : Session) : String := s.material.network.listing s.material.id

/-! ## Summary -/

/-- The lines of a shading node in a summary. -/
def nodeLines (n : ShadingNode) : List String :=
  ("    " ++ n.kind.token ++ " " ++ n.handle ++ " [" ++ n.name ++ "]") ::
    n.parameters.entries.map fun e => "      " ++ e.1 ++ " = " ++ e.2.inspect

/-- The lines of a live network in a summary. -/
def networkLines (entry : NetworkId × CommittedNetwork) : List String :=
  ("  " ++ entry.2.kind.token ++ " network " ++ entry.1.text ++ " (revision " ++
    String.ofList (digitsOf entry.2.revision) ++ ")") :: entry.2.nodes.flatMap nodeLines

/-- The lines of a report in a summary. -/
def reportLines (r : SyncReport) : List String :=
  (r.committed.map fun e => "  committed " ++ e.1 ++ " -> " ++ e.2.token ++ " network") ++
    (r.deleted.map fun kind => "  deleted " ++ kind.token ++ " network") ++
    r.errors.map fun e => "  error: " ++ e.message

/-- What a sync did and what the sink holds, as lines of text. -/
def summary (s : Session) (r : SyncReport) : String :=
  let lines :=
    ("material " ++ s.material.id ++ ":") ::
      (reportLines r ++ s.sink.networks.entries.flatMap networkLines)
  String.join (lines.map (· ++ "\n"))

/-! ## Report -/

/-- Three numbers as an array. -/
def tripleJson (v : Triple Single) : Json.Writer := Json.array (v.toList.map Json.single)

/-- The value of a parameter. -/
def payloadJson : ShadingParameter → Json.Writer
  | .int n => Json.integer n.toInt
  | .float x => Json.single x
  | .string s => Json.string s
  | .color v | .vector v | .point v | .normal v => tripleJson v
  | .intArray ns => Json.array (ns.map fun n => Json.integer n.toInt)
  | .floatArray xs => Json.array (xs.map Json.single)
  | .stringArray ss => Json.array (ss.map Json.string)
  | .colorArray vs | .vectorArray vs | .pointArray vs | .normalArray vs =>
    Json.array (vs.map tripleJson)
  | .reference type target =>
    Json.object [("ty", Json.string type.label), ("target", Json.string target)]

/-- A parameter: an object whose only member is named by the form. -/
def parameterJson (p : ShadingParameter) : Json.Writer := Json.object [(p.label, payloadJson p)]

/-- A shading node. -/
def nodeJson (n : ShadingNode) : Json.Writer :=
  Json.object
    [ ("kind", Json.string n.kind.label),
      ("handle", Json.string n.handle),
      ("name", Json.string n.name),
      ("params", Json.object (n.parameters.entries.map fun e => (e.1, parameterJson e.2))) ]

/-- A live network. -/
def networkJson (entry : NetworkId × CommittedNetwork) : Json.Writer :=
  Json.object
    [ ("id", Json.string entry.1.text),
      ("kind", Json.string entry.2.kind.label),
      ("revision", Json.natural entry.2.revision),
      ("nodes", Json.array (entry.2.nodes.map nodeJson)) ]

/-- What a sync did and what the sink holds, as a JSON text. -/
def report (s : Session) (r : SyncReport) : String :=
  Json.text <| Json.object
    [ ("material", Json.string s.material.id),
      ("committed", Json.array (r.committed.map fun e =>
        Json.array [Json.string e.1, Json.string e.2.label])),
      ("deleted", Json.array (r.deleted.map fun kind => Json.string kind.label)),
      ("errors", Json.array (r.errors.map fun e => Json.string e.message)),
      ("networks", Json.array (s.sink.networks.entries.map networkJson)) ]

end Session

end ShadingGraph
