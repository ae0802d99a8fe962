/-!
# Shader descriptors

What a renderer tells about its shaders: for each shader its inputs and outputs, and where its
implementation is.

## Main definitions

- `PropertyType` — the declared type of a property, with `PropertyType.ofToken` and
  `PropertyType.token`
- `ShaderProperty` — an input or an output
- `ShaderDescriptor` — a shader
-/

namespace ShadingGraph

/-- The declared type of a shader property. -/
inductive PropertyType where
  | float
  | int
  | string
  | color
  | vector
  | point
  | normal
  /-- Data routed between shaders as a whole. -/
  | struct
  /-- Data routed between shaders member by member. -/
  | vstruct
  /-- No type declared. -/
  | unspecified
  /-- Any further type, by its token. -/
  | other (token : String)
deriving DecidableEq, Inhabited

namespace PropertyType

/-- The token that a type is declared by. -/
def token : PropertyType → String
  | .float => "float"
  | .int => "int"
  | .string => "string"
  | .color => "color"
  | .vector => "vector"
  | .point => "point"
  | .normal => "normal"
  | .struct => "struct"
  | .vstruct => "vstruct"
  | .unspecified => ""
  | .other token => token

/-- The type that a token declares. -/
def ofToken : String → PropertyType
  | "float" => .float
  | "int" => .int
  | "string" => .string
  | "color" => .color
  | "vector" => .vector
  | "point" => .point
  | "normal" => .normal
  | "struct" => .struct
  | "vstruct" => .vstruct
  | "" => .unspecified
  | token => .other token

end PropertyType

/-- An input or an output of a shader. -/
structure ShaderProperty where
  /-- The name that material nodes use. -/
  name : String
  /-- The name that the renderer uses. -/
  implementationName : String
  /-- The declared type. -/
  type : PropertyType
  /-- The labels of an enumerated property, each with the text of its integer code. -/
  options : List (String × String)
  /-- The vstruct that the property is a member of. -/
  memberOf : Option String
  /-- The name of the member in that vstruct. -/
  memberName : Option String
deriving DecidableEq, Inhabited

namespace ShaderProperty

/-- A property that the renderer knows by the same name. -/
def named (name : String) (type : PropertyType) : ShaderProperty :=
  ⟨name, name, type, [], none, none⟩

/-- The property under a different name for the renderer. -/
def withImplementationName (p : ShaderProperty) (name : String) : ShaderProperty :=
  { p with implementationName := name }

/-- The property with enumerated labels. -/
def withOptions (p : ShaderProperty) (options : List (String × String)) : ShaderProperty :=
  { p with options }

/-- The property as a member of a vstruct. -/
def asMember (p : ShaderProperty) (vstruct member : String) : ShaderProperty :=
  { p with memberOf := some vstruct, memberName := some member }

end ShaderProperty

/-- A shader of the renderer. -/
structure ShaderDescriptor where
  /-- The identifier that material nodes refer to. -/
  identifier : String
  /-- The name shown in messages. -/
  name : String
  /-- The kind of source the shader is built from. -/
  sourceType : String
  /-- The token that says where the shader can be used. -/
  context : String
  inputs : List ShaderProperty
  outputs : List ShaderProperty
  /-- The name that the renderer can select the shader by. -/
  implementationName : String
  /-- The place of the implementation as declared. -/
  implementationUri : String
  /-- The place where the implementation was found; empty where it was not. -/
  resolvedUri : String
deriving DecidableEq, Inhabited

namespace ShaderDescriptor

/-- A shader without properties and implementation, named by its identifier. -/
def ofIdentifier (identifier sourceType context : String) : ShaderDescriptor :=
  ⟨identifier, identifier, sourceType, context, [], [], identifier, "", ""⟩

/-- The shader with an implementation at a place where it is found. -/
def withImplementation (d : ShaderDescriptor) (uri : String) : ShaderDescriptor :=
  { d with implementationUri := uri, resolvedUri := uri }

/-- The shader with the given inputs and outputs. -/
def withProperties (d : ShaderDescriptor) (inputs outputs : List ShaderProperty) :
    ShaderDescriptor :=
  { d with inputs, outputs }

/-- The first input of a name. -/
def input? (d : ShaderDescriptor) (name : String) : Option ShaderProperty :=
  d.inputs.find? fun p => p.name == name

/-- The first output of a name. -/
def output? (d : ShaderDescriptor) (name : String) : Option ShaderProperty :=
  d.outputs.find? fun p => p.name == name

end ShaderDescriptor

end ShadingGraph
