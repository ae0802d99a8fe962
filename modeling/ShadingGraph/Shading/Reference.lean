import ShadingGraph.Registry.Catalog
import ShadingGraph.Shading.Node

/-!
# References between shading nodes

A connection of the material network becomes a parameter that refers to the output it comes from, of
the type that the input it goes to declares.

## Main definitions

- `PropertyType.reference?` — the reference type for a declared type
- `ShaderCatalog.referenceOf` — the reference for a connection, if it can be expressed
- `ShaderCatalog.convertConnections` — the references for all connections of a node
-/

namespace ShadingGraph

/-- The type of references to an input of a declared type. -/
def PropertyType.reference? : PropertyType → Option ReferenceType
  | .color => some .color
  | .vector => some .vector
  | .point => some .point
  | .normal => some .normal
  | .float => some .float
  | .int => some .int
  | .string => some .string
  | .struct => some .struct
  | .vstruct | .unspecified | .other _ => none

namespace ShaderCatalog

/-- The reference for a connection under the name of the implementation. There is none where the
node that feeds the input is not in the network or is among those that failed, where either shader
does not declare its end, or where the declared type has no references. -/
def referenceOf (c : ShaderCatalog) (net : MaterialNetwork) (failed : List String)
    (descriptor : ShaderDescriptor) (entry : String × Connection) :
    Option (String × ShadingParameter) := do
  let feeding ← net.node? entry.2.node
  if entry.2.node ∈ failed then none
  else
    let source ← c.describe feeding.typeId
    let input ← descriptor.input? entry.1
    let output ← source.output? entry.2.output
    let type ← input.type.reference?
    some (input.implementationName,
      .reference type (referenceTarget entry.2.node output.implementationName))

/-- Writes the references for all connections of a node in order. -/
def convertConnections (c : ShaderCatalog) (net : MaterialNetwork) (failed : List String)
    (node : MaterialNode) (descriptor : ShaderDescriptor)
    (parameters : OrderedMap String ShadingParameter) : OrderedMap String ShadingParameter :=
  parameters.insertAll (node.connections.filterMap (c.referenceOf net failed descriptor))

end ShaderCatalog

end ShadingGraph
