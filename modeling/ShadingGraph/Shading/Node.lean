import ShadingGraph.Network.Value
import ShadingGraph.OrderedMap

/-!
# Shading nodes

The nodes that a renderer is given: each has a kind, a handle that other nodes refer to it by, the
name of its implementation, and typed parameters. An edge of the material network has become a
parameter that refers to another node's output.

## Main definitions

- `ShadingKind` — what a node does for the renderer
- `ReferenceType`, `ShadingParameter` — typed parameters and references
- `ShadingNode` — a node
- `referenceTarget`, `referenceHandle?` — the text of a reference and the handle in it
-/

namespace ShadingGraph

/-- What a shading node does for the renderer. -/
inductive ShadingKind where
  /-- Scatters light at a surface or in a volume. -/
  | bxdf
  /-- Computes values for other nodes. -/
  | pattern
  /-- Displaces a surface. -/
  | displacement
  /-- Emits light. -/
  | light
  /-- Filters the light of a light. -/
  | lightFilter
deriving DecidableEq, Inhabited

namespace ShadingKind

/-- The token of a kind. -/
def token : ShadingKind → String
  | .bxdf => "bxdf"
  | .pattern => "pattern"
  | .displacement => "displacement"
  | .light => "light"
  | .lightFilter => "lightFilter"

/-- The capitalized name of a kind, as reports write it. -/
def label : ShadingKind → String
  | .bxdf => "Bxdf"
  | .pattern => "Pattern"
  | .displacement => "Displacement"
  | .light => "Light"
  | .lightFilter => "LightFilter"

/-- Whether the renderer selects the implementation of the kind by its name, not by its path. -/
def selectsByName : ShadingKind → Bool
  | .displacement | .light | .lightFilter => true
  | .bxdf | .pattern => false

end ShadingKind

/-- The type of a reference. -/
inductive ReferenceType where
  | color
  | vector
  | point
  | normal
  | float
  | int
  | string
  | struct
deriving DecidableEq, Inhabited

/-- The capitalized name of a reference type. -/
def ReferenceType.label : ReferenceType → String
  | .color => "Color"
  | .vector => "Vector"
  | .point => "Point"
  | .normal => "Normal"
  | .float => "Float"
  | .int => "Int"
  | .string => "String"
  | .struct => "Struct"

/-- A parameter of a shading node. -/
inductive ShadingParameter where
  | int (n : Int32)
  | float (x : Single)
  | string (s : String)
  | color (v : Triple Single)
  | vector (v : Triple Single)
  | point (v : Triple Single)
  | normal (v : Triple Single)
  | intArray (ns : List Int32)
  | floatArray (xs : List Single)
  | stringArray (ss : List String)
  | colorArray (vs : List (Triple Single))
  | vectorArray (vs : List (Triple Single))
  | pointArray (vs : List (Triple Single))
  | normalArray (vs : List (Triple Single))
  /-- A reference to an output of another node. -/
  | reference (type : ReferenceType) (target : String)
deriving DecidableEq

instance : Inhabited ShadingParameter := ⟨.int 0⟩

namespace ShadingParameter

/-- The name of the form of a parameter, as reports and inspection texts write it. -/
def label : ShadingParameter → String
  | .int _ => "Int"
  | .float _ => "Float"
  | .string _ => "String"
  | .color _ => "Color"
  | .vector _ => "Vector"
  | .point _ => "Point"
  | .normal _ => "Normal"
  | .intArray _ => "IntArray"
  | .floatArray _ => "FloatArray"
  | .stringArray _ => "StringArray"
  | .colorArray _ => "ColorArray"
  | .vectorArray _ => "VectorArray"
  | .pointArray _ => "PointArray"
  | .normalArray _ => "NormalArray"
  | .reference _ _ => "Reference"

/-- The target of a reference. -/
def target? : ShadingParameter → Option String
  | .reference _ target => some target
  | _ => none

/-- The value of a parameter for inspection. -/
def inspectPayload : ShadingParameter → String
  | .int n => String.ofList (integerText n.toInt)
  | .float x => x.text .inspect
  | .string s => String.ofList (inspectString s)
  | .color v | .vector v | .point v | .normal v => v.inspect
  | .intArray ns => bracketed (ns.map fun n => String.ofList (integerText n.toInt))
  | .floatArray xs => bracketed (xs.map (Binary.text .inspect))
  | .stringArray ss => bracketed (ss.map fun s => String.ofList (inspectString s))
  | .colorArray vs | .vectorArray vs | .pointArray vs | .normalArray vs =>
    bracketed (vs.map Triple.inspect)
  | .reference _ target => String.ofList (inspectString target)

/-- A parameter for inspection: its form and its value; a reference names its two parts. -/
def inspect (p : ShadingParameter) : String :=
  match p with
  | .reference type _ =>
    "Reference \x7b ty: " ++ type.label ++ ", target: " ++ p.inspectPayload ++ " \x7d"
  | _ => p.label ++ "(" ++ p.inspectPayload ++ ")"

end ShadingParameter

/-- The text of a reference to an output of the node with a handle. -/
def referenceTarget (handle output : String) : String := handle ++ ":" ++ output

/-- What stands before the first colon of a text; nothing where there is no colon. -/
def beforeColon : List Char → Option (List Char)
  | [] => none
  | c :: rest => if c = ':' then some [] else (beforeColon rest).map (c :: ·)

/-- The handle that a reference text names: what stands before its first colon. -/
def referenceHandle? (target : String) : Option String :=
  (beforeColon target.toList).map String.ofList

/-- A node for the renderer. -/
structure ShadingNode where
  kind : ShadingKind
  /-- The handle by which other nodes refer to the node: its path in the material network. -/
  handle : String
  /-- The path of the implementation, or its name for kinds that are selected by name. -/
  name : String
  /-- Parameters and references by name. -/
  parameters : OrderedMap String ShadingParameter
deriving DecidableEq, Inhabited

/-- The handles that the references of a node name, in order. -/
def ShadingNode.referencedHandles (n : ShadingNode) : List String :=
  (n.parameters.values.filterMap ShadingParameter.target?).filterMap referenceHandle?

end ShadingGraph
