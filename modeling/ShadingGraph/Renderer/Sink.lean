import ShadingGraph.Shading.Node

/-!
# Network sinks

A sink stands for the renderer: it takes finished shading networks, hands out an id for each network
it creates, and replaces or deletes networks by their ids. The sink here keeps the networks and logs
every call.

## Main definitions

- `NetworkKind` — the two networks that a material can have
- `NetworkId` — the id of a created network, or none
- `CommittedNetwork`, `SinkCall`, `NetworkSink` — the networks, the log and the sink
- `NetworkSink.opened` — a sink without networks, with the ids that it is going to hand out
- `NetworkSink.create`, `NetworkSink.modify`, `NetworkSink.delete` — the three calls
-/

namespace ShadingGraph

/-- Which of the networks of a material a network is. -/
inductive NetworkKind where
  /-- Surface and volume. -/
  | material
  /-- Displacement. -/
  | displacement
deriving DecidableEq, Inhabited

namespace NetworkKind

/-- The token of a kind. -/
def token : NetworkKind → String
  | .material => "material"
  | .displacement => "displacement"

/-- The capitalized name of a kind, as reports write it. -/
def label : NetworkKind → String
  | .material => "Material"
  | .displacement => "Displacement"

end NetworkKind

/-- The id of a network. Which id a new network gets is up to the sink that creates it. -/
inductive NetworkId where
  /-- No network. -/
  | invalid
  /-- A created network, told apart from others by a number. -/
  | created (n : Nat)
deriving DecidableEq, Inhabited

namespace NetworkId

/-- Whether the id names a network. -/
def isValid : NetworkId → Bool
  | .invalid => false
  | .created _ => true

/-- The id as texts write it. -/
def text : NetworkId → String
  | .invalid => "invalid"
  | .created n => "#" ++ String.ofList (digitsOf n)

end NetworkId

/-- A network that a sink holds. -/
structure CommittedNetwork where
  kind : NetworkKind
  /-- The nodes in the order in which they were committed. -/
  nodes : List ShadingNode
  /-- How often the network was modified since it was created, as a word that wraps around. -/
  modifications : UInt32
deriving DecidableEq, Inhabited

namespace CommittedNetwork

/-- The number of modifications as texts write it. -/
def revision (n : CommittedNetwork) : Nat := n.modifications.toNat

/-- The network with other nodes, which makes one more modification. -/
def replaceNodes (n : CommittedNetwork) (nodes : List ShadingNode) : CommittedNetwork :=
  { n with nodes, modifications := n.modifications + 1 }

end CommittedNetwork

/-- A call that a sink received. -/
inductive SinkCall where
  /-- A creation, with the id handed out. -/
  | create (kind : NetworkKind) (id : NetworkId)
  | modify (kind : NetworkKind) (id : NetworkId)
  | delete (kind : NetworkKind) (id : NetworkId)
deriving DecidableEq

/-- A sink that keeps its networks. -/
structure NetworkSink where
  /-- Whether every creation fails. -/
  rejecting : Bool
  /-- The ids that creations hand out, one after the other. -/
  supply : Nat → NetworkId
  /-- How many networks have been created. -/
  created : Nat
  /-- The live networks in the order of their creation. -/
  networks : OrderedMap NetworkId CommittedNetwork
  /-- Every call so far, in order. -/
  calls : List SinkCall
deriving Inhabited

namespace NetworkSink

/-- A sink without networks that accepts creations or rejects them all, with the ids that it is
going to hand out. -/
def opened (rejecting : Bool) (supply : Nat → NetworkId) : NetworkSink :=
  ⟨rejecting, supply, 0, ∅, []⟩

/-- A sink without networks that numbers its networks in the order of their creation. -/
def empty (rejecting : Bool) : NetworkSink := opened rejecting .created

/-- The live network of an id. -/
def network? (s : NetworkSink) (id : NetworkId) : Option CommittedNetwork := s.networks.find? id

/-- Adds a call to the log. -/
def log (s : NetworkSink) (call : SinkCall) : NetworkSink := { s with calls := s.calls ++ [call] }

/-- The id that the next network gets. -/
def nextId (s : NetworkSink) : NetworkId := s.supply s.created

/-- Creates a network and hands out its id, which is invalid if the sink rejects creations. -/
def create (s : NetworkSink) (kind : NetworkKind) (nodes : List ShadingNode) :
    NetworkId × NetworkSink :=
  if s.rejecting then (.invalid, s.log (.create kind .invalid))
  else
    (s.nextId,
      { s with
        created := s.created + 1
        networks := s.networks.insert s.nextId ⟨kind, nodes, 0⟩ }.log (.create kind s.nextId))

/-- Replaces the nodes of a live network. The kind is only logged. -/
def modify (s : NetworkSink) (kind : NetworkKind) (id : NetworkId) (nodes : List ShadingNode) :
    NetworkSink :=
  { s with
    networks := s.networks.modify id fun n => n.replaceNodes nodes }.log (.modify kind id)

/-- Deletes a live network. The kind is only logged. -/
def delete (s : NetworkSink) (kind : NetworkKind) (id : NetworkId) : NetworkSink :=
  { s with networks := s.networks.erase id }.log (.delete kind id)

end NetworkSink

end ShadingGraph
