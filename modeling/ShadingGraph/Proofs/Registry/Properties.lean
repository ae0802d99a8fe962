import ShadingGraph.Registry.Descriptor

/-!
# The properties of a shader by their names

Nothing keeps a shader from declaring a name twice. A name stands for the first property that has
it.

## Main definitions

- `FirstNamed` — the property of a list that a name stands for

## Main results

- `ShaderDescriptor.input?_eq_some_iff`, `ShaderDescriptor.output?_eq_some_iff` — lookups find the
  property that a name stands for
-/

namespace ShadingGraph

/-- A property is the first one of a list that has a name. -/
def FirstNamed (properties : List ShaderProperty) (name : String) (p : ShaderProperty) : Prop :=
  ∃ front back, properties = front ++ p :: back ∧ p.name = name ∧ ∀ q ∈ front, q.name ≠ name

theorem find?_name_eq_some_iff {properties : List ShaderProperty} {name : String}
    {p : ShaderProperty} :
    (properties.find? fun p => p.name == name) = some p ↔ FirstNamed properties name p := by
  rw [List.find?_eq_some_iff_append, FirstNamed]
  constructor
  · rintro ⟨hname, front, back, hproperties, hfront⟩
    exact ⟨front, back, hproperties, by simpa using hname, fun q hq => by simpa using hfront q hq⟩
  · rintro ⟨front, back, hproperties, hname, hfront⟩
    exact ⟨by simpa using hname, front, back, hproperties, fun q hq => by simpa using hfront q hq⟩

namespace ShaderDescriptor

variable {d : ShaderDescriptor} {name : String} {p : ShaderProperty}

theorem input?_eq_some_iff : d.input? name = some p ↔ FirstNamed d.inputs name p :=
  find?_name_eq_some_iff

theorem output?_eq_some_iff : d.output? name = some p ↔ FirstNamed d.outputs name p :=
  find?_name_eq_some_iff

end ShaderDescriptor

end ShadingGraph
