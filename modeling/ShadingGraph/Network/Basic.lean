import ShadingGraph.Network.Value
import ShadingGraph.OrderedMap

/-!
# Material networks

A material network is a graph of shader nodes. Edges are kept at their downstream end: each input of
a node lists the outputs that feed it. Named terminals say which outputs the material is made of. An
edge or a terminal may name a node that is not part of the network.

## Main definitions

- `Connection` — an output of a node, named by the node's path and the output's name
- `MaterialNode` — a shader type, authored parameters and the connections of each input
- `MaterialNetwork` — nodes by path and terminals by name
-/

namespace ShadingGraph

/-- An output that feeds an input or a terminal. -/
structure Connection where
  /-- The path of the node that has the output; it need not exist. -/
  node : String
  /-- The name of the output on that node. -/
  output : String
deriving DecidableEq, Inhabited

/-- A connection as listings show it. -/
def Connection.text (c : Connection) : String := c.output ++ " @ " ++ c.node

/-- A shader node of a network. -/
structure MaterialNode where
  /-- The identifier that the shader registry knows the node's type by. -/
  typeId : String
  /-- The authored values by parameter name. -/
  parameters : OrderedMap String Value
  /-- The connections that feed each input. -/
  inputs : OrderedMap String (List Connection)
deriving DecidableEq, Inhabited

namespace MaterialNode

/-- A node of a type, with nothing authored on it. -/
def ofType (typeId : String) : MaterialNode := ⟨typeId, ∅, ∅⟩

/-- Writes a parameter. -/
def setParameter (n : MaterialNode) (name : String) (value : Value) : MaterialNode :=
  { n with parameters := n.parameters.insert name value }

/-- The value of a parameter. -/
def parameter (n : MaterialNode) (name : String) : Option Value := n.parameters.find? name

/-- Adds a connection behind those that an input already has. -/
def connect (n : MaterialNode) (input : String) (c : Connection) : MaterialNode :=
  { n with inputs := n.inputs.alter input [] (· ++ [c]) }

/-- Gives an input an entry, without adding a connection to it. -/
def declareInput (n : MaterialNode) (input : String) : MaterialNode :=
  { n with inputs := n.inputs.alter input [] id }

/-- Removes an input with all its connections. -/
def disconnect (n : MaterialNode) (input : String) : MaterialNode :=
  { n with inputs := n.inputs.erase input }

/-- The connections that feed an input. -/
def connectionsTo (n : MaterialNode) (input : String) : List Connection :=
  (n.inputs.find? input).getD []

/-- All connections of the node, each with the input it feeds, input by input. -/
def connections (n : MaterialNode) : List (String × Connection) :=
  n.inputs.entries.flatMap fun e => e.2.map fun c => (e.1, c)

/-- The paths of the nodes that feed the node, in the order of the connections, with repetitions. -/
def dependencies (n : MaterialNode) : List String := n.connections.map fun e => e.2.node

/-- Equality of nodes, in which the order of parameters and of inputs does not count. -/
def agrees (n n' : MaterialNode) : Bool :=
  n.typeId == n'.typeId && n.parameters.agrees Value.agrees n'.parameters &&
    n.inputs.agrees (· == ·) n'.inputs

end MaterialNode

/-- A graph of shader nodes with named terminals. -/
structure MaterialNetwork where
  /-- The nodes by path. -/
  nodes : OrderedMap String MaterialNode
  /-- The output that each terminal stands for. -/
  terminals : OrderedMap String Connection
deriving DecidableEq, Inhabited

namespace MaterialNetwork

/-- The network without nodes and terminals. -/
def empty : MaterialNetwork := ⟨∅, ∅⟩

instance : EmptyCollection MaterialNetwork := ⟨empty⟩

/-- Adds a node, or replaces the one at its path where it stands. -/
def addNode (net : MaterialNetwork) (path : String) (node : MaterialNode) : MaterialNetwork :=
  { net with nodes := net.nodes.insert path node }

/-- Removes a node; connections that name it are left as they are. -/
def removeNode (net : MaterialNetwork) (path : String) : MaterialNetwork :=
  { net with nodes := net.nodes.erase path }

/-- The node at a path. -/
def node? (net : MaterialNetwork) (path : String) : Option MaterialNode := net.nodes.find? path

/-- Applies a function to the node at a path, if there is one. -/
def modifyNode (net : MaterialNetwork) (path : String) (f : MaterialNode → MaterialNode) :
    MaterialNetwork :=
  { net with nodes := net.nodes.modify path f }

/-- The paths of all nodes. -/
def paths (net : MaterialNetwork) : List String := net.nodes.keys

/-- Sets the output that a terminal stands for. -/
def setTerminal (net : MaterialNetwork) (name : String) (c : Connection) : MaterialNetwork :=
  { net with terminals := net.terminals.insert name c }

/-- Removes a terminal. -/
def removeTerminal (net : MaterialNetwork) (name : String) : MaterialNetwork :=
  { net with terminals := net.terminals.erase name }

/-- The output that a terminal stands for. -/
def terminal? (net : MaterialNetwork) (name : String) : Option Connection :=
  net.terminals.find? name

/-- Equality of networks, in which the order of nodes and of terminals does not count. -/
def agrees (net net' : MaterialNetwork) : Bool :=
  net.nodes.agrees MaterialNode.agrees net'.nodes &&
    net.terminals.agrees (· == ·) net'.terminals

end MaterialNetwork

end ShadingGraph
