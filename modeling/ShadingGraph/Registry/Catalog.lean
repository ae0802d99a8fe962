import ShadingGraph.Network.Basic
import ShadingGraph.Registry.Basic

/-!
# Shader catalogs

A registry together with the acceptable source types and the images that the renderer can be given:
all that filters and conversions need to know besides a network.

## Main definitions

- `ShaderCatalog` — a registry, a preference, and which files are images
- `ShaderCatalog.describe`, `ShaderCatalog.describeNode` — the shader of a type or of a node
-/

namespace ShadingGraph

/-- A registry, the acceptable source types, most preferred first, and the formats of images. -/
structure ShaderCatalog where
  registry : ShaderRegistry
  sourceTypes : List String
  /-- Whether the renderer reads the file at a path through its plugin for images. -/
  isImage : String → Bool
deriving Inhabited

namespace ShaderCatalog

/-- The shader that a type identifier refers to. -/
def describe (c : ShaderCatalog) (typeId : String) : Option ShaderDescriptor :=
  c.registry.lookup c.sourceTypes typeId

/-- The shader of the node at a path, if both are known. -/
def describeNode (c : ShaderCatalog) (net : MaterialNetwork) (path : String) :
    Option ShaderDescriptor :=
  (net.node? path).bind fun n => c.describe n.typeId

end ShaderCatalog

end ShadingGraph
