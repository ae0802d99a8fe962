import ShadingGraph.Network.Basic
import ShadingGraph.Ron.Document
import ShadingGraph.Ron.Writer

/-!
# Documents of material networks

The document form of a material network and its parts.

## Main definitions

- `MaterialNetwork.ofRon?` — the network of a document
- `MaterialNetwork.toRon` — the document of a network
-/

namespace ShadingGraph

namespace Ron

/-! ## Values -/

/-- Three items as a triple. -/
def tripleOfList? {α : Type} : List α → Option (Triple α)
  | [x, y, z] => some ⟨x, y, z⟩
  | _ => none

/-- Reads a value and goes on with what can be made of it. -/
def refine {α β : Type} (f : α → Option β) (read : Reader α) : Reader β := fun x s => do
  let (a, s) ← read x s
  let b ← f a
  some (b, s)

/-- A number in single precision. -/
def readSingle : Reader Single := anywhere (readFloat .single)

/-- A number in double precision. -/
def readDouble : Reader Double := anywhere (readFloat .double)

/-- A 32-bit integer. -/
def readInt32 : Reader Int32 :=
  anywhere fun s => (readInteger (.signed 32) s).map fun p => (Int32.ofInt p.1, p.2)

/-- Three numbers in single precision. -/
def readTriple (bare : Bool) : Reader (Triple Single) :=
  refine tripleOfList? (readTuple 3 bare readSingle)

/-- Three numbers in double precision. -/
def readTripleDouble (bare : Bool) : Reader (Triple Double) :=
  refine tripleOfList? (readTuple 3 bare readDouble)

/-- The fields of a file reference that have been read. -/
structure AssetFields where
  authored : Option String
  resolved : Option (Option String)

/-- The fields of a file reference. -/
def assetFields : List (Field AssetFields) :=
  [ field "authored" (anywhere readString) (·.authored) fun st a => { st with authored := some a },
    field "resolved" (readOption fun _ => anywhere readString) (·.resolved)
      fun st a => { st with resolved := some a } ]

/-- A file reference; without a concrete path it has not been found. -/
def readAsset (bare : Bool) : Reader AssetPath :=
  readStruct bare "AssetPath" assetFields skipValue ⟨none, none⟩ fun st =>
    st.authored.map fun authored => ⟨authored, st.resolved.getD none⟩

/-- The payload of the value of a type, by the name of the variant. -/
def valuePayload : String → Option (Bool → Reader Value)
  | "Float" => some fun _ => mapReader .float readSingle
  | "Int" => some fun _ => mapReader .int readInt32
  | "Bool" => some fun _ => mapReader .bool (anywhere readBool)
  | "String" => some fun _ => mapReader .string (anywhere readString)
  | "Token" => some fun _ => mapReader .token (anywhere readString)
  | "Vec2" => some fun bare => refine
      (fun xs => match xs with | [x, y] => some (.vec2 x y) | _ => none)
      (readTuple 2 bare readSingle)
  | "Vec3" => some fun bare => mapReader .vec3 (readTriple bare)
  | "Vec3d" => some fun bare => mapReader .vec3d (readTripleDouble bare)
  | "Vec4" => some fun bare => refine
      (fun xs => match xs with | [x, y, z, w] => some (.vec4 x y z w) | _ => none)
      (readTuple 4 bare readSingle)
  | "FloatArray" => some fun _ => mapReader .floatArray (readList readSingle)
  | "IntArray" => some fun _ => mapReader .intArray (readList readInt32)
  | "StringArray" => some fun _ => mapReader .stringArray (readList (anywhere readString))
  | "Vec3Array" => some fun _ => mapReader .vec3Array (readList (readTriple false))
  | "Vec3dArray" => some fun _ => mapReader .vec3dArray (readList (readTripleDouble false))
  | "Asset" => some fun bare => mapReader .asset (readAsset bare)
  | _ => none

/-- A value: the name of its type and its payload. -/
def readValue : Reader Value := readVariant valuePayload

/-- Three numbers as a tuple. -/
def writeTriple {f : BinaryFormat} : Writer (Triple (Binary f)) := fun depth v =>
  writeTuple writeFloat depth v.toList

/-- A file reference. -/
def writeAsset : Writer AssetPath := fun depth a =>
  writeStruct "AssetPath" depth
    [ ("authored", fun depth => writeString depth a.authored),
      ("resolved", fun depth => writeOption writeString depth a.resolved) ]

/-- A 32-bit integer. -/
def writeInt32 : Writer Int32 := fun depth n => writeInteger depth n.toInt

/-- A value. -/
def writeValue : Writer Value := fun depth v =>
  match v with
  | .float x => writeVariant "Float" (writeFloat depth x)
  | .int n => writeVariant "Int" (writeInt32 depth n)
  | .bool b => writeVariant "Bool" (writeBool depth b)
  | .string s => writeVariant "String" (writeString depth s)
  | .token s => writeVariant "Token" (writeString depth s)
  | .vec2 x y => writeVariant "Vec2" (writeTuple writeFloat depth [x, y])
  | .vec3 v => writeVariant "Vec3" (writeTriple depth v)
  | .vec3d v => writeVariant "Vec3d" (writeTriple depth v)
  | .vec4 x y z w => writeVariant "Vec4" (writeTuple writeFloat depth [x, y, z, w])
  | .floatArray xs => writeVariant "FloatArray" (writeList writeFloat depth xs)
  | .intArray ns => writeVariant "IntArray" (writeList writeInt32 depth ns)
  | .stringArray ss => writeVariant "StringArray" (writeList writeString depth ss)
  | .vec3Array vs => writeVariant "Vec3Array" (writeList writeTriple depth vs)
  | .vec3dArray vs => writeVariant "Vec3dArray" (writeList writeTriple depth vs)
  | .asset a => writeVariant "Asset" (writeAsset depth a)

/-! ## Nodes and networks -/

/-- The fields of a connection that have been read. -/
structure ConnectionFields where
  node : Option String
  output : Option String

/-- The fields of a connection. -/
def connectionFields : List (Field ConnectionFields) :=
  [ field "upstream_node" (anywhere readString) (·.node) fun st a => { st with node := some a },
    field "upstream_output_name" (anywhere readString) (·.output)
      fun st a => { st with output := some a } ]

/-- A connection. -/
def readConnection : Reader Connection :=
  readStruct false "Connection" connectionFields skipValue ⟨none, none⟩ fun st => do
    let node ← st.node
    let output ← st.output
    some ⟨node, output⟩

/-- The fields of a node that have been read. -/
structure NodeFields where
  typeId : Option String
  parameters : Option (OrderedMap String Value)
  inputs : Option (OrderedMap String (List Connection))

/-- The fields of a node. -/
def nodeFields : List (Field NodeFields) :=
  [ field "node_type_id" (anywhere readString) (·.typeId) fun st a => { st with typeId := some a },
    field "parameters" (readMap (anywhere readString) readValue) (·.parameters)
      fun st a => { st with parameters := some a },
    field "input_connections" (readMap (anywhere readString) (readList readConnection)) (·.inputs)
      fun st a => { st with inputs := some a } ]

/-- A node; parameters and connections may be left out. -/
def readNode : Reader MaterialNode :=
  readStruct false "MaterialNode" nodeFields skipValue ⟨none, none, none⟩ fun st =>
    st.typeId.map fun typeId => ⟨typeId, st.parameters.getD ∅, st.inputs.getD ∅⟩

/-- The fields of a network that have been read. -/
structure NetworkFields where
  nodes : Option (OrderedMap String MaterialNode)
  terminals : Option (OrderedMap String Connection)

/-- The fields of a network. -/
def networkFields : List (Field NetworkFields) :=
  [ field "nodes" (readMap (anywhere readString) readNode) (·.nodes)
      fun st a => { st with nodes := some a },
    field "terminals" (readMap (anywhere readString) readConnection) (·.terminals)
      fun st a => { st with terminals := some a } ]

/-- A network; nodes and terminals may be left out. -/
def readNetwork : Reader MaterialNetwork :=
  readStruct false "MaterialNetwork" networkFields skipValue ⟨none, none⟩ fun st =>
    some ⟨st.nodes.getD ∅, st.terminals.getD ∅⟩

/-- A connection. -/
def writeConnection : Writer Connection := fun depth c =>
  writeStruct "Connection" depth
    [ ("upstream_node", fun depth => writeString depth c.node),
      ("upstream_output_name", fun depth => writeString depth c.output) ]

/-- A node. -/
def writeNode : Writer MaterialNode := fun depth n =>
  writeStruct "MaterialNode" depth
    [ ("node_type_id", fun depth => writeString depth n.typeId),
      ("parameters", fun depth => writeMap writeString writeValue depth n.parameters),
      ("input_connections", fun depth =>
        writeMap writeString (writeList writeConnection) depth n.inputs) ]

/-- A network. -/
def writeNetwork : Writer MaterialNetwork := fun depth net =>
  writeStruct "MaterialNetwork" depth
    [ ("nodes", fun depth => writeMap writeString writeNode depth net.nodes),
      ("terminals", fun depth => writeMap writeString writeConnection depth net.terminals) ]

end Ron

namespace MaterialNetwork

/-- The network of a document; nothing where the document is malformed. -/
def ofRon? (text : String) : Option MaterialNetwork := Ron.parse Ron.readNetwork text

/-- The document of a network. -/
def toRon (net : MaterialNetwork) : String := String.ofList (Ron.writeNetwork 0 net)

end MaterialNetwork

end ShadingGraph
