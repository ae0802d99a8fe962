import ShadingGraph.Number.Notation
import ShadingGraph.Text.Quoted

/-!
# Authored values

The values that parameters of material nodes hold.

## Main definitions

- `AssetPath` — a file as it was authored, and where it was found
- `Value` — a parameter value of one of fifteen types
- `Value.typeName`, `Value.text` — the type and the value as listings show them
- `Value.agrees` — equality of values, in which numbers compare as numbers
-/

namespace ShadingGraph

/-- A file reference: the path as authored, and the concrete file once it has been found. -/
structure AssetPath where
  authored : String
  resolved : Option String
deriving DecidableEq, Inhabited

/-- The concrete file, if there is one; an empty path counts as none. -/
def AssetPath.resolvedPath (a : AssetPath) : Option String :=
  a.resolved.filter fun p => !p.isEmpty

/-- The value of a parameter of a material node. -/
inductive Value where
  /-- A number in single precision. -/
  | float (x : Single)
  /-- An integer. -/
  | int (n : Int32)
  /-- A truth value. -/
  | bool (b : Bool)
  /-- A free text. -/
  | string (s : String)
  /-- A text used as a name. -/
  | token (s : String)
  /-- Two numbers. -/
  | vec2 (x y : Single)
  /-- Three numbers: a color, a vector, a point or a normal. -/
  | vec3 (v : Triple Single)
  /-- Three numbers in double precision. -/
  | vec3d (v : Triple Double)
  /-- Four numbers. -/
  | vec4 (x y z w : Single)
  /-- A list of numbers. -/
  | floatArray (xs : List Single)
  /-- A list of integers. -/
  | intArray (ns : List Int32)
  /-- A list of texts. -/
  | stringArray (ss : List String)
  /-- A list of triples. -/
  | vec3Array (vs : List (Triple Single))
  /-- A list of triples in double precision. -/
  | vec3dArray (vs : List (Triple Double))
  /-- A file reference. -/
  | asset (a : AssetPath)
deriving DecidableEq

instance : Inhabited Value := ⟨.bool false⟩

/-- The items of a list between brackets, with a comma and a space between them. -/
def bracketed (items : List String) : String := "[" ++ ", ".intercalate items ++ "]"

/-- The components of a vector between parentheses, with a comma and a space between them. -/
def parenthesized (items : List String) : String := "(" ++ ", ".intercalate items ++ ")"

namespace Triple

variable {f : BinaryFormat}

/-- Three numbers as a list for inspection. -/
def inspect (v : Triple (Binary f)) : String := bracketed (v.toList.map (Binary.text .inspect))

end Triple

namespace Value

/-- The name of the type of a value, as messages show it. -/
def typeName : Value → String
  | .float _ => "float"
  | .int _ => "int"
  | .bool _ => "bool"
  | .string _ => "string"
  | .token _ => "token"
  | .vec2 _ _ => "float2"
  | .vec3 _ => "float3"
  | .vec3d _ => "double3"
  | .vec4 _ _ _ _ => "float4"
  | .floatArray _ => "float[]"
  | .intArray _ => "int[]"
  | .stringArray _ => "string[]"
  | .vec3Array _ => "float3[]"
  | .vec3dArray _ => "double3[]"
  | .asset _ => "asset"

/-- The value as listings show it: numbers plainly, texts as they are, arrays for inspection, and a
file between at-signs with its concrete path behind it. -/
def text : Value → String
  | .float x => x.text .plain
  | .int n => String.ofList (integerText n.toInt)
  | .bool b => if b then "true" else "false"
  | .string s => s
  | .token s => s
  | .vec2 x y => parenthesized ([x, y].map (Binary.text .plain))
  | .vec3 v => parenthesized (v.toList.map (Binary.text .plain))
  | .vec3d v => parenthesized (v.toList.map (Binary.text .plain))
  | .vec4 x y z w => parenthesized ([x, y, z, w].map (Binary.text .plain))
  | .floatArray xs => bracketed (xs.map (Binary.text .inspect))
  | .intArray ns => bracketed (ns.map fun n => String.ofList (integerText n.toInt))
  | .stringArray ss => bracketed (ss.map fun s => String.ofList (inspectString s))
  | .vec3Array vs => bracketed (vs.map Triple.inspect)
  | .vec3dArray vs => bracketed (vs.map Triple.inspect)
  | .asset a =>
    match a.resolvedPath with
    | some resolved => "@" ++ a.authored ++ "@ (" ++ resolved ++ ")"
    | none => "@" ++ a.authored ++ "@"

/-- Element-wise equality of lists of one length. -/
def agreeAll {α : Type} (same : α → α → Bool) (xs ys : List α) : Bool :=
  xs.length == ys.length && (xs.zip ys).all fun p => same p.1 p.2

/-- Equality of values of one type; numbers compare as numbers, so that a value with a NaN in it
differs from itself. -/
def agrees : Value → Value → Bool
  | .float x, .float x' => x.same x'
  | .int n, .int n' => n == n'
  | .bool b, .bool b' => b == b'
  | .string s, .string s' => s == s'
  | .token s, .token s' => s == s'
  | .vec2 x y, .vec2 x' y' => x.same x' && y.same y'
  | .vec3 v, .vec3 v' => v.agrees Binary.same v'
  | .vec3d v, .vec3d v' => v.agrees Binary.same v'
  | .vec4 x y z w, .vec4 x' y' z' w' => x.same x' && y.same y' && z.same z' && w.same w'
  | .floatArray xs, .floatArray xs' => agreeAll Binary.same xs xs'
  | .intArray ns, .intArray ns' => ns == ns'
  | .stringArray ss, .stringArray ss' => ss == ss'
  | .vec3Array vs, .vec3Array vs' => agreeAll (Triple.agrees Binary.same) vs vs'
  | .vec3dArray vs, .vec3dArray vs' => agreeAll (Triple.agrees Binary.same) vs vs'
  | .asset a, .asset a' => a == a'
  | _, _ => false

end Value

end ShadingGraph
