import ShadingGraph.Network.Basic
import ShadingGraph.Shading.Asset
import ShadingGraph.Text.Blank

/-!
# Conversion of parameter values

A value becomes a renderer parameter of the type that the shader declares: three numbers become a
color, a vector, a point or a normal as the property says, and the label of an enumerated property
becomes its code.

## Main definitions

- `ParameterError` — why a value has no conversion
- `parseInt32?` — the integer that a text denotes
- `resolveOption` — the code of a label
- `convertValue` — the parameter for a value, if it is not dropped
- `convertParameters` — all authored parameters of a node
-/

namespace ShadingGraph

/-- Why a value could not be converted. -/
inductive ParameterError where
  /-- The declared type takes no value of this type. -/
  | unsupported (valueType : String) (declared : PropertyType)
  /-- The text is neither a label nor a code of the property. -/
  | unknownOption (label : String)
  /-- The code of the label is not an integer. -/
  | invalidOptionCode (label code : String)
deriving DecidableEq

/-- The message of a conversion error. -/
def ParameterError.message : ParameterError → String
  | .unsupported valueType declared =>
    "Unsupported value type '" ++ valueType ++ "' for declared type '" ++ declared.token ++ "'"
  | .unknownOption label => "Unknown option '" ++ label ++ "'"
  | .invalidOptionCode label code =>
    "Option '" ++ label ++ "' has non-integer code '" ++ code ++ "'"

/-- The number that a text of one or more digits denotes. -/
def parseDigits? (ds : List Char) : Option Nat :=
  if ds.isEmpty then none
  else if ds.all Char.isDigit then some (Nat.ofDigitChars 10 ds 0)
  else none

/-- The integer that a text of digits with at most one sign in front denotes. -/
def parseSigned? : List Char → Option Int
  | '+' :: ds => (parseDigits? ds).map Int.ofNat
  | '-' :: ds => (parseDigits? ds).map fun n => -Int.ofNat n
  | ds => (parseDigits? ds).map Int.ofNat

/-- The 32-bit integer of a value; nothing where it is out of range. -/
def int32OfInt? (n : Int) : Option Int32 :=
  if -2147483648 ≤ n ∧ n ≤ 2147483647 then some (Int32.ofInt n) else none

/-- The 32-bit integer that a text denotes. -/
def parseInt32? (cs : List Char) : Option Int32 := (parseSigned? cs).bind int32OfInt?

/-- The first option whose label is the text, or else the first whose code is. -/
def findOption? (label : String) (options : List (String × String)) : Option (String × String) :=
  (options.find? fun o => o.1 == label).or (options.find? fun o => o.2 == label)

/-- The integer code of a label. The text may be a code of the property itself. -/
def resolveOption (label : String) (options : List (String × String)) :
    Except ParameterError Int32 :=
  match findOption? label options with
  | none => .error (.unknownOption label)
  | some (matched, code) =>
    match parseInt32? (trimBlank code.toList) with
    | some n => .ok n
    | none => .error (.invalidOptionCode matched code)

/-- Three numbers as the declared type takes them. -/
def convertTriple (type : PropertyType) (v : Triple Single) : Option ShadingParameter :=
  match type with
  | .color => some (.color v)
  | .vector => some (.vector v)
  | .point => some (.point v)
  | .normal => some (.normal v)
  | _ => none

/-- Triples as the declared type takes them. -/
def convertTriples (type : PropertyType) (vs : List (Triple Single)) : Option ShadingParameter :=
  match type with
  | .color => some (.colorArray vs)
  | .vector => some (.vectorArray vs)
  | .point => some (.pointArray vs)
  | .normal => some (.normalArray vs)
  | _ => none

/-- A text as the declared type takes it: an integer property takes it as a label. -/
def convertText (property : ShaderProperty) (s : String) :
    Except ParameterError ShadingParameter :=
  match property.type with
  | .int => (resolveOption s property.options).map .int
  | _ => .ok (.string s)

section

variable (isImage : String → Bool)

/-- A value for a property that is neither a struct nor a vstruct. A text becomes a string, or the
code of a label where an integer is declared; file references and truth values suit every type;
numbers go to numbers, pairs and quadruples to numbers as lists, and triples to what takes
triples. -/
def convertTyped (parameter : String) (value : Value) (property : ShaderProperty)
    (kind : ShadingKind) : Except ParameterError ShadingParameter :=
  let type := property.type
  let expect : Option ShadingParameter → Except ParameterError ShadingParameter
    | some p => .ok p
    | none => .error (.unsupported value.typeName type)
  match value with
  | .vec2 x y => expect <| if type = .float then some (.floatArray [x, y]) else none
  | .vec4 x y z w => expect <| if type = .float then some (.floatArray [x, y, z, w]) else none
  | .vec3 v => expect (convertTriple type v)
  | .vec3d v => expect (convertTriple type (v.map Binary.convert))
  | .vec3Array vs => expect (convertTriples type vs)
  | .vec3dArray vs => expect (convertTriples type (vs.map (Triple.map Binary.convert)))
  | .float x => expect <|
    match type with
    | .int => some (.int x.truncate)
    | .float => some (.float x)
    | _ => none
  | .floatArray xs => expect <|
    match type with
    | .int => some (.intArray (xs.map Binary.truncate))
    | .float => some (.floatArray xs)
    | _ => none
  | .int n => expect <|
    match type with
    | .float => some (.float (Binary.ofInt n.toInt))
    | .int => some (.int n)
    | _ => none
  | .intArray ns => expect <|
    match type with
    | .float => some (.floatArray (ns.map fun n => Binary.ofInt n.toInt))
    | .int => some (.intArray ns)
    | _ => none
  | .string s => convertText property s
  | .token s => convertText property s
  | .stringArray ss => expect <| if type = .string then some (.stringArray ss) else none
  | .asset a => .ok (.string (a.reference isImage parameter kind))
  | .bool b => .ok (.int (if b then 1 else 0))

/-- The parameter for a value of a property. Structs and vstructs only route data between shaders,
so that what is authored on them is dropped. -/
def convertValue (parameter : String) (value : Value) (property : ShaderProperty)
    (kind : ShadingKind) : Except ParameterError (Option ShadingParameter) :=
  match property.type with
  | .struct => .ok none
  | .vstruct => .ok none
  | _ => (convertTyped isImage parameter value property kind).map some

/-- The parameter of an authored value under the name of the implementation. A value is left out
where the shader declares no such input or no type for it, and where it is dropped or has no
conversion. -/
def convertAuthored (descriptor : ShaderDescriptor) (kind : ShadingKind) (entry : String × Value) :
    Option (String × ShadingParameter) :=
  match descriptor.input? entry.1 with
  | none => none
  | some property =>
    if property.type = .unspecified then none
    else
      match convertValue isImage entry.1 entry.2 property kind with
      | .ok (some p) => some (property.implementationName, p)
      | _ => none

/-- Writes the conversions of all authored parameters of a node in order. -/
def convertParameters (node : MaterialNode) (descriptor : ShaderDescriptor) (kind : ShadingKind)
    (parameters : OrderedMap String ShadingParameter) : OrderedMap String ShadingParameter :=
  parameters.insertAll (node.parameters.entries.filterMap (convertAuthored isImage descriptor kind))

end

end ShadingGraph
