import ShadingGraph.Registry.Catalog

/-!
# Expansion of vstruct connections

A connection between two vstructs stands for one connection for each pair of matching members.
Renderers know only the members, so the expansion removes every connection of a vstruct input and
connects the members instead. A member input that has a connection of its own keeps it.

## Main definitions

- `VstructProblem` — why a vstruct connection could not be expanded
- `VstructExpansion` — what is to change on one node
- `ShaderCatalog.expandNode` — the changes of one node, found from the network as it stands
- `ShaderCatalog.expandVstructs` — all nodes of a network, one after the other
-/

namespace ShadingGraph

/-- A vstruct connection that has no expansion. -/
inductive VstructProblem where
  /-- The node that feeds the input, or its shader, is not known. -/
  | unknownSource (input path source : String)
  /-- The output that feeds the input is no vstruct. -/
  | notVstruct (input path output : String)
deriving DecidableEq

/-- The message of a problem in the network of a material. -/
def VstructProblem.message (materialId : String) : VstructProblem → String
  | .unknownSource input path source =>
    materialId ++ ": cannot resolve vstruct '" ++ input ++ "' on " ++ path ++
      ": unknown upstream node " ++ source
  | .notVstruct input path output =>
    materialId ++ ": vstruct '" ++ input ++ "' on " ++ path ++
      " is connected to non-vstruct output '" ++ output ++ "'"

/-- What the expansion changes on one node. -/
structure VstructExpansion where
  /-- The vstruct inputs, which lose their connections. -/
  removed : List String
  /-- The member inputs that are connected, in order. -/
  added : List (String × Connection)
  problems : List VstructProblem
deriving DecidableEq

namespace VstructExpansion

/-- No change. -/
def empty : VstructExpansion := ⟨[], [], []⟩

/-- Carries the changes out: first the vstruct inputs go, then the members are connected. -/
def applyTo (x : VstructExpansion) (node : MaterialNode) : MaterialNode :=
  x.added.foldl (fun n e => n.connect e.1 e.2) (x.removed.foldl MaterialNode.disconnect node)

end VstructExpansion

/-- Whether a property is declared, and as a vstruct. -/
def isVstruct (p : Option ShaderProperty) : Bool :=
  match p with
  | some p => decide (p.type = .vstruct)
  | none => false

namespace ShaderDescriptor

/-- The inputs that are members of a vstruct input. -/
def inputMembers (d : ShaderDescriptor) (input : String) : List ShaderProperty :=
  d.inputs.filter fun p => decide (p.memberOf = some input)

/-- The first output that is the given member of a vstruct output. -/
def outputMember? (d : ShaderDescriptor) (output : String) (member : Option String) :
    Option ShaderProperty :=
  d.outputs.find? fun p => decide (p.memberOf = some output ∧ p.memberName = member)

end ShaderDescriptor

/-- Connects one member input to the matching member of the output, unless the input has a
connection already, of its own or from an earlier vstruct connection. -/
def expandMember (node : MaterialNode) (source : ShaderDescriptor) (connection : Connection)
    (added : List (String × Connection)) (member : ShaderProperty) : List (String × Connection) :=
  if !(node.connectionsTo member.name).isEmpty || added.any fun e => e.1 == member.name then added
  else
    match source.outputMember? connection.output member.memberName with
    | some output => added ++ [(member.name, ⟨connection.node, output.name⟩)]
    | none => added

namespace ShaderCatalog

/-- Expands one connection of a vstruct input. -/
def expandConnection (c : ShaderCatalog) (net : MaterialNetwork) (path : String)
    (node : MaterialNode) (descriptor : ShaderDescriptor) (input : String)
    (x : VstructExpansion) (connection : Connection) : VstructExpansion :=
  match c.describeNode net connection.node with
  | none =>
    { x with problems := x.problems ++ [.unknownSource input path connection.node] }
  | some source =>
    if isVstruct (source.output? connection.output) then
      { x with
        added := (descriptor.inputMembers input).foldl (expandMember node source connection)
          x.added }
    else
      { x with problems := x.problems ++ [.notVstruct input path connection.output] }

/-- Expands one input of a node; inputs that are no vstructs stay as they are. -/
def expandInput (c : ShaderCatalog) (net : MaterialNetwork) (path : String) (node : MaterialNode)
    (descriptor : ShaderDescriptor) (x : VstructExpansion) (entry : String × List Connection) :
    VstructExpansion :=
  if isVstruct (descriptor.input? entry.1) then
    entry.2.foldl (c.expandConnection net path node descriptor entry.1)
      { x with removed := x.removed ++ [entry.1] }
  else x

/-- The changes of one node. A node of unknown type is left alone. -/
def expandNode (c : ShaderCatalog) (net : MaterialNetwork) (path : String) (node : MaterialNode) :
    VstructExpansion :=
  match c.describe node.typeId with
  | none => .empty
  | some descriptor => node.inputs.entries.foldl (c.expandInput net path node descriptor) .empty

/-- Expands the node at a path where it stands and adds to the problems found so far. -/
def expandPath (c : ShaderCatalog) (s : MaterialNetwork × List VstructProblem) (path : String) :
    MaterialNetwork × List VstructProblem :=
  match s.1.node? path with
  | none => s
  | some node =>
    let x := c.expandNode s.1 path node
    (s.1.modifyNode path x.applyTo, s.2 ++ x.problems)

/-- Expands the vstruct connections of all nodes in order. -/
def expandVstructs (c : ShaderCatalog) (net : MaterialNetwork) :
    MaterialNetwork × List VstructProblem :=
  net.paths.foldl c.expandPath (net, [])

end ShaderCatalog

end ShadingGraph
