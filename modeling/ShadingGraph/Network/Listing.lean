import ShadingGraph.Network.Basic

/-!
# Listings of networks

A readable listing of a network: every node with its path, type, parameters and connections, then
every terminal.

## Main definitions

- `MaterialNode.listing` — the lines of one node
- `MaterialNetwork.listing` — the whole listing, each line ended by a line feed
-/

namespace ShadingGraph

/-- The lines of a node: heading, path, type, then parameters and connections in order. -/
def MaterialNode.listing (path : String) (n : MaterialNode) : List String :=
  ["  --Node--", "    path: " ++ path, "    type: " ++ n.typeId] ++
    (n.parameters.entries.map fun e => "    param: " ++ e.1 ++ " = " ++ e.2.text) ++
    n.connections.map fun e => "    connection: " ++ e.1 ++ " <-> " ++ e.2.text

/-- The line of a terminal. -/
def Connection.terminalLine (name : String) (c : Connection) : String :=
  "    " ++ name ++ " (downstream) <-> " ++ c.text ++ " (upstream)"

/-- The listing of the network of a material. -/
def MaterialNetwork.listing (materialId : String) (net : MaterialNetwork) : String :=
  let lines :=
    ("material network for " ++ materialId ++ ":") ::
      (net.nodes.entries.flatMap fun e => e.2.listing e.1) ++
      "  --Terminals--" :: net.terminals.entries.map fun e => e.2.terminalLine e.1
  String.join (lines.map (· ++ "\n"))

end ShadingGraph
