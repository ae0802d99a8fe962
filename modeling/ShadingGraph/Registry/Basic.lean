import ShadingGraph.OrderedMap
import ShadingGraph.Registry.Descriptor

/-!
# Shader registries

A registry holds the shaders that material nodes can refer to. A shader may be registered once for
each source type; a lookup names the acceptable source types, most preferred first.

## Main definitions

- `ShaderRegistry` — descriptors by identifier, one for each source type
- `ShaderRegistry.register` — adds a descriptor or replaces the one of its source type
- `ShaderRegistry.lookup` — the descriptor of the most preferred source type
-/

namespace ShadingGraph

/-- The descriptors of a renderer by identifier. -/
structure ShaderRegistry where
  shaders : OrderedMap String (List ShaderDescriptor)
deriving DecidableEq, Inhabited

/-- Puts a descriptor in the place of the one of its source type, or behind all others. -/
def ShaderDescriptor.upsert (d : ShaderDescriptor) : List ShaderDescriptor → List ShaderDescriptor
  | [] => [d]
  | e :: rest => if e.sourceType = d.sourceType then d :: rest else e :: d.upsert rest

namespace ShaderRegistry

/-- The registry without shaders. -/
def empty : ShaderRegistry := ⟨∅⟩

instance : EmptyCollection ShaderRegistry := ⟨empty⟩

/-- Registers a shader, in place of the one with its identifier and source type if there is one. -/
def register (r : ShaderRegistry) (d : ShaderDescriptor) : ShaderRegistry :=
  ⟨r.shaders.alter d.identifier [] d.upsert⟩

/-- Registers shaders from left to right. -/
def registerAll (r : ShaderRegistry) (ds : List ShaderDescriptor) : ShaderRegistry :=
  ds.foldl register r

/-- The registry of a list of shaders. -/
def ofList (ds : List ShaderDescriptor) : ShaderRegistry := empty.registerAll ds

/-- All descriptors, identifier by identifier. -/
def descriptors (r : ShaderRegistry) : List ShaderDescriptor := r.shaders.values.flatten

/-- Applies a function to every descriptor where it stands. -/
def mapDescriptors (f : ShaderDescriptor → ShaderDescriptor) (r : ShaderRegistry) :
    ShaderRegistry :=
  ⟨r.shaders.mapValues fun _ ds => ds.map f⟩

/-- The number of descriptors. -/
def size (r : ShaderRegistry) : Nat := r.descriptors.length

/-- Whether no identifier is registered. -/
def isEmpty (r : ShaderRegistry) : Bool := r.shaders.isEmpty

/-- The descriptor of an identifier for the first acceptable source type that has one. Where no
source type is named, the descriptor registered first is taken. -/
def lookup (r : ShaderRegistry) (sourceTypes : List String) (identifier : String) :
    Option ShaderDescriptor := do
  let entries ← r.shaders.find? identifier
  if sourceTypes.isEmpty then entries.head?
  else sourceTypes.findSome? fun t => entries.find? fun d => d.sourceType == t

end ShaderRegistry

end ShadingGraph
