import ShadingGraph.Registry.Basic
import ShadingGraph.Ron.Document

/-!
# Documents of shader registries

A registry document is a list of shader descriptors.

## Main definitions

- `ShaderRegistry.ofRon?` — the registry of a document
-/

namespace ShadingGraph

namespace Ron

/-- The fields of a property that have been read. -/
structure PropertyFields where
  name : Option String
  implementationName : Option String
  type : Option String
  options : Option (List (String × String))
  memberOf : Option (Option String)
  memberName : Option (Option String)

/-- A label and its code as a tuple. -/
def readLabel : Reader (String × String) := fun x s => do
  let (items, s) ← readTuple 2 false (anywhere readString) x s
  match items with
  | [label, code] => some ((label, code), s)
  | _ => none

/-- The fields of a property. -/
def propertyFields : List (Field PropertyFields) :=
  [ field "name" (anywhere readString) (·.name) fun st a => { st with name := some a },
    field "implementation_name" (anywhere readString) (·.implementationName)
      fun st a => { st with implementationName := some a },
    field "ty" (anywhere readString) (·.type) fun st a => { st with type := some a },
    field "options" (readList readLabel) (·.options) fun st a => { st with options := some a },
    field "vstruct_member_of" (readOption fun _ => anywhere readString) (·.memberOf)
      fun st a => { st with memberOf := some a },
    field "vstruct_member_name" (readOption fun _ => anywhere readString) (·.memberName)
      fun st a => { st with memberName := some a } ]

/-- A property; options and membership may be left out. -/
def readProperty : Reader ShaderProperty :=
  readStruct false "PropertyDescriptor" propertyFields skipValue
    ⟨none, none, none, none, none, none⟩ fun st => do
      let name ← st.name
      let implementationName ← st.implementationName
      let type ← st.type
      some
        { name, implementationName
          type := .ofToken type
          options := st.options.getD []
          memberOf := st.memberOf.getD none
          memberName := st.memberName.getD none }

/-- The fields of a shader that have been read. -/
structure DescriptorFields where
  identifier : Option String
  name : Option String
  sourceType : Option String
  context : Option String
  inputs : Option (List ShaderProperty)
  outputs : Option (List ShaderProperty)
  implementationName : Option String
  implementationUri : Option String
  resolvedUri : Option String

/-- The fields of a shader. -/
def descriptorFields : List (Field DescriptorFields) :=
  [ field "identifier" (anywhere readString) (·.identifier)
      fun st a => { st with identifier := some a },
    field "name" (anywhere readString) (·.name) fun st a => { st with name := some a },
    field "source_type" (anywhere readString) (·.sourceType)
      fun st a => { st with sourceType := some a },
    field "context" (anywhere readString) (·.context) fun st a => { st with context := some a },
    field "inputs" (readList readProperty) (·.inputs) fun st a => { st with inputs := some a },
    field "outputs" (readList readProperty) (·.outputs) fun st a => { st with outputs := some a },
    field "implementation_name" (anywhere readString) (·.implementationName)
      fun st a => { st with implementationName := some a },
    field "implementation_uri" (anywhere readString) (·.implementationUri)
      fun st a => { st with implementationUri := some a },
    field "resolved_implementation_uri" (anywhere readString) (·.resolvedUri)
      fun st a => { st with resolvedUri := some a } ]

/-- A shader; properties and the places of the implementation may be left out. -/
def readDescriptor : Reader ShaderDescriptor :=
  readStruct false "ShaderNodeDescriptor" descriptorFields skipValue
    ⟨none, none, none, none, none, none, none, none, none⟩ fun st => do
      let identifier ← st.identifier
      let name ← st.name
      let sourceType ← st.sourceType
      let context ← st.context
      let implementationName ← st.implementationName
      some
        { identifier, name, sourceType, context
          inputs := st.inputs.getD []
          outputs := st.outputs.getD []
          implementationName
          implementationUri := st.implementationUri.getD ""
          resolvedUri := st.resolvedUri.getD "" }

end Ron

/-- The registry of a document, its shaders registered in order; nothing where the document is
malformed. -/
def ShaderRegistry.ofRon? (text : String) : Option ShaderRegistry :=
  (Ron.parse (Ron.readList Ron.readDescriptor) text).map .ofList

end ShadingGraph
