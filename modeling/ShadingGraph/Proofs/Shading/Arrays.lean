import Mathlib.Data.List.Forall2
import ShadingGraph.Shading.Parameter

/-!
# Arrays of parameter values

Numbers and triples come alone and in arrays. An array is dropped, refused or converted as a single
element would be at the same declared type, and where it is converted its elements are converted one
by one. Triples in double precision are converted as the triples of the nearest numbers in single
precision.

## Main definitions

- `ElementType`, `ParameterForm` — the values and the parameters that come alone and in arrays
- `ElementType.conversion?` — what the elements of a type become at a declared type
- `ElementType.ConvertsElementwise` — a conversion agrees on arrays and on what they hold

## Main results

- `convertTyped_scalar`, `convertTyped_array` — one table says what becomes of both
- `convertValue_elementwise` — every property converts arrays element by element
-/

namespace ShadingGraph

/-! ## Scalars and arrays -/

/-- A type of values that come alone and in arrays. -/
inductive ElementType where
  | float
  | int
  | vec3
  | vec3d
deriving DecidableEq

namespace ElementType

/-- What values of a type hold. -/
abbrev Element : ElementType → Type
  | .float => Single
  | .int => Int32
  | .vec3 => Triple Single
  | .vec3d => Triple Double

/-- A value by itself. -/
def scalar : (e : ElementType) → e.Element → Value
  | .float, x => .float x
  | .int, n => .int n
  | .vec3, v => .vec3 v
  | .vec3d, v => .vec3d v

/-- Values in an array. -/
def array : (e : ElementType) → List e.Element → Value
  | .float, xs => .floatArray xs
  | .int, ns => .intArray ns
  | .vec3, vs => .vec3Array vs
  | .vec3d, vs => .vec3dArray vs

end ElementType

/-- A form of parameters that come alone and in arrays. -/
inductive ParameterForm where
  | float
  | int
  | color
  | vector
  | point
  | normal
deriving DecidableEq

namespace ParameterForm

/-- What parameters of a form hold. -/
abbrev Payload : ParameterForm → Type
  | .float => Single
  | .int => Int32
  | .color | .vector | .point | .normal => Triple Single

/-- A parameter by itself. -/
def scalar : (form : ParameterForm) → form.Payload → ShadingParameter
  | .float, x => .float x
  | .int, n => .int n
  | .color, v => .color v
  | .vector, v => .vector v
  | .point, v => .point v
  | .normal, v => .normal v

/-- Parameters in an array. -/
def array : (form : ParameterForm) → List form.Payload → ShadingParameter
  | .float, xs => .floatArray xs
  | .int, ns => .intArray ns
  | .color, vs => .colorArray vs
  | .vector, vs => .vectorArray vs
  | .point, vs => .pointArray vs
  | .normal, vs => .normalArray vs

end ParameterForm

/-- What elements become: the form, and what is held. -/
structure ElementConversion (α : Type) where
  form : ParameterForm
  payload : α → form.Payload

/-- What the triples that an element stands for become at a declared type. -/
def tripleConversion? {α : Type} (triple : α → Triple Single) :
    PropertyType → Option (ElementConversion α)
  | .color => some ⟨.color, triple⟩
  | .vector => some ⟨.vector, triple⟩
  | .point => some ⟨.point, triple⟩
  | .normal => some ⟨.normal, triple⟩
  | _ => none

/-- What the elements of a type become at a declared type, if it takes them. -/
def ElementType.conversion? :
    (e : ElementType) → PropertyType → Option (ElementConversion e.Element)
  | .float, .int => some ⟨.int, Binary.truncate⟩
  | .float, .float => some ⟨.float, fun x => x⟩
  | .int, .float => some ⟨.float, fun n => Binary.ofInt n.toInt⟩
  | .int, .int => some ⟨.int, fun n => n⟩
  | .vec3, type => tripleConversion? (fun v => v) type
  | .vec3d, type => tripleConversion? (Triple.map Binary.convert) type
  | _, _ => none

variable {isImage : String → Bool} {parameter : String} {property : ShaderProperty}
  {kind : ShadingKind} {e : ElementType}

/-! ## Conversion by the table -/

theorem convertTyped_scalar (x : e.Element) :
    convertTyped isImage parameter (e.scalar x) property kind =
      match e.conversion? property.type with
      | some c => .ok (c.form.scalar (c.payload x))
      | none => .error (.unsupported (e.scalar x).typeName property.type) := by
  unfold convertTyped
  cases e <;> cases property.type <;> rfl

theorem convertTyped_array (xs : List e.Element) :
    convertTyped isImage parameter (e.array xs) property kind =
      match e.conversion? property.type with
      | some c => .ok (c.form.array (xs.map c.payload))
      | none => .error (.unsupported (e.array xs).typeName property.type) := by
  unfold convertTyped
  cases e <;> cases property.type <;>
    simp [ElementType.array, ElementType.conversion?, tripleConversion?, convertTriples,
      ParameterForm.array]

/-- What is authored for a struct or a vstruct is dropped, whatever it is. -/
theorem convertValue_of_routed (isImage : String → Bool) (parameter : String) (kind : ShadingKind)
    (h : property.type = .struct ∨ property.type = .vstruct) (value : Value) :
    convertValue isImage parameter value property kind = .ok none := by
  unfold convertValue
  rcases h with h | h <;> rw [h]

theorem convertValue_of_not_routed (isImage : String → Bool) (parameter : String)
    (kind : ShadingKind) (h : ¬ (property.type = .struct ∨ property.type = .vstruct))
    (value : Value) :
    convertValue isImage parameter value property kind =
      (convertTyped isImage parameter value property kind).map some := by
  unfold convertValue
  split
  case h_1 hstruct => exact absurd (.inl hstruct) h
  case h_2 hvstruct => exact absurd (.inr hvstruct) h
  case h_3 => rfl

/-! ## Arrays element by element -/

/-- At a declared type, a conversion treats arrays of a type as it treats single elements: both are
dropped, both are refused with the name of their type, or both are converted, to the same form and
element by element. -/
structure ElementType.ConvertsElementwise (e : ElementType)
    (convert : Value → Except ParameterError (Option ShadingParameter)) (declared : PropertyType) :
    Prop where
  dropped : ∀ x xs, convert (e.array xs) = .ok none ↔ convert (e.scalar x) = .ok none
  unsupported : ∀ x xs,
    convert (e.array xs) = .error (.unsupported (e.array xs).typeName declared) ↔
      convert (e.scalar x) = .error (.unsupported (e.scalar x).typeName declared)
  converted : ∀ x xs, convert (e.scalar x) ≠ .ok none →
    convert (e.scalar x) ≠ .error (.unsupported (e.scalar x).typeName declared) →
      ∃ form : ParameterForm, (∃ y, convert (e.scalar x) = .ok (some (form.scalar y))) ∧
        ∃ ys, convert (e.array xs) = .ok (some (form.array ys)) ∧
          List.Forall₂ (fun x y => convert (e.scalar x) = .ok (some (form.scalar y))) xs ys

theorem convertsElementwise_convertValue (e : ElementType) (isImage : String → Bool)
    (parameter : String) (property : ShaderProperty) (kind : ShadingKind) :
    e.ConvertsElementwise (fun v => convertValue isImage parameter v property kind)
      property.type := by
  by_cases hrouted : property.type = .struct ∨ property.type = .vstruct
  · have hvalue := convertValue_of_routed isImage parameter kind hrouted
    exact ⟨by simp [hvalue], by simp [hvalue], by simp [hvalue]⟩
  · have hvalue := convertValue_of_not_routed isImage parameter kind hrouted
    cases hconversion : e.conversion? property.type with
    | none =>
      have hscalar : ∀ x, convertValue isImage parameter (e.scalar x) property kind =
          .error (.unsupported (e.scalar x).typeName property.type) := by
        intro x
        rw [hvalue, convertTyped_scalar, hconversion]
        rfl
      have harray : ∀ xs, convertValue isImage parameter (e.array xs) property kind =
          .error (.unsupported (e.array xs).typeName property.type) := by
        intro xs
        rw [hvalue, convertTyped_array, hconversion]
        rfl
      refine ⟨by simp [hscalar, harray], by simp [hscalar, harray], ?_⟩
      intro x xs _ hunsupported
      exact absurd (hscalar x) hunsupported
    | some c =>
      have hscalar : ∀ x, convertValue isImage parameter (e.scalar x) property kind =
          .ok (some (c.form.scalar (c.payload x))) := by
        intro x
        rw [hvalue, convertTyped_scalar, hconversion]
        rfl
      have harray : ∀ xs, convertValue isImage parameter (e.array xs) property kind =
          .ok (some (c.form.array (xs.map c.payload))) := by
        intro xs
        rw [hvalue, convertTyped_array, hconversion]
        rfl
      refine ⟨by simp [hscalar, harray], by simp [hscalar, harray], ?_⟩
      intro x xs _ _
      refine ⟨c.form, ⟨_, hscalar x⟩, _, harray xs, ?_⟩
      rw [List.forall₂_map_right_iff, List.forall₂_same]
      exact fun x _ => hscalar x

/-! ## Double precision -/

/-- Two values are converted to the same, but that each is refused with the name of its own type. -/
theorem convertValue_eq_mapError {value value' : Value}
    (h : convertTyped isImage parameter value property kind =
      (convertTyped isImage parameter value' property kind).mapError fun _ =>
        .unsupported value.typeName property.type) :
    convertValue isImage parameter value property kind =
      (convertValue isImage parameter value' property kind).mapError fun _ =>
        .unsupported value.typeName property.type := by
  by_cases hrouted : property.type = .struct ∨ property.type = .vstruct
  · rw [convertValue_of_routed _ _ _ hrouted, convertValue_of_routed _ _ _ hrouted]
    rfl
  · rw [convertValue_of_not_routed _ _ _ hrouted, convertValue_of_not_routed _ _ _ hrouted, h]
    cases convertTyped isImage parameter value' property kind <;> rfl

theorem convertTyped_vec3d (v : Triple Double) :
    convertTyped isImage parameter (.vec3d v) property kind =
      (convertTyped isImage parameter (.vec3 (v.map Binary.convert)) property
        kind).mapError fun _ => .unsupported (Value.vec3d v).typeName property.type := by
  unfold convertTyped
  dsimp only
  cases convertTriple property.type (v.map Binary.convert) <;> rfl

theorem convertTyped_vec3dArray (vs : List (Triple Double)) :
    convertTyped isImage parameter (.vec3dArray vs) property kind =
      (convertTyped isImage parameter (.vec3Array (vs.map (Triple.map Binary.convert))) property
        kind).mapError fun _ => .unsupported (Value.vec3dArray vs).typeName property.type := by
  unfold convertTyped
  dsimp only
  cases convertTriples property.type (vs.map (Triple.map Binary.convert)) <;> rfl

/-- Every property converts an array as it converts a single element of its type, and the triples in
double precision, alone and in arrays, as the triples of the nearest numbers in single precision. -/
theorem convertValue_elementwise (isImage : String → Bool) (parameter : String)
    (property : ShaderProperty) (kind : ShadingKind) :
    (∀ e : ElementType, e.ConvertsElementwise
        (fun v => convertValue isImage parameter v property kind) property.type) ∧
      (∀ v : Triple Double, convertValue isImage parameter (.vec3d v) property kind =
        (convertValue isImage parameter (.vec3 (v.map Binary.convert)) property
          kind).mapError fun _ => .unsupported (Value.vec3d v).typeName property.type) ∧
      ∀ vs : List (Triple Double), convertValue isImage parameter (.vec3dArray vs) property kind =
        (convertValue isImage parameter (.vec3Array (vs.map (Triple.map Binary.convert))) property
          kind).mapError fun _ => .unsupported (Value.vec3dArray vs).typeName property.type := by
  refine ⟨fun e => ?_, fun v => ?_, fun vs => ?_⟩
  · exact convertsElementwise_convertValue e isImage parameter property kind
  · exact convertValue_eq_mapError (convertTyped_vec3d v)
  · exact convertValue_eq_mapError (convertTyped_vec3dArray vs)

/-- Integers for an input of type float are converted one by one, and triples in double precision
for a color as those in single precision. -/
theorem convertValue_sampleArrays :
    let isImage : String → Bool := fun _ => false
    let gain := ShaderProperty.named "gain" .float
    let tint := ShaderProperty.named "tint" .color
    let white : Triple Double := ⟨Binary.ofInt 1, Binary.ofInt 1, Binary.ofInt 1⟩
    (∃ (form : ParameterForm) (ys : List form.Payload),
      convertValue isImage "gain" (.intArray [1, -2]) gain .pattern =
          .ok (some (form.array ys)) ∧
        form.array ys = .floatArray [Binary.ofInt 1, Binary.ofInt (-2)] ∧
        List.Forall₂ (fun n y => convertValue isImage "gain" (.int n) gain .pattern =
          .ok (some (form.scalar y))) [1, -2] ys) ∧
      convertValue isImage "tint" (.vec3dArray [white]) tint .pattern =
        .ok (some (.colorArray [⟨Binary.ofInt 1, Binary.ofInt 1, Binary.ofInt 1⟩])) := by
  intro isImage gain tint white
  obtain ⟨hgain, -, -⟩ := convertValue_elementwise isImage "gain" gain .pattern
  obtain ⟨-, -, htint⟩ := convertValue_elementwise isImage "tint" tint .pattern
  obtain ⟨form, -, ys, harray, hpointwise⟩ :=
    (hgain .int).converted 1 [1, -2] (by exact nofun) (by exact nofun)
  have hvalue : convertValue isImage "gain" (.intArray [1, -2]) gain .pattern =
      .ok (some (.floatArray [Binary.ofInt 1, Binary.ofInt (-2)])) := rfl
  have hform := Except.ok.inj (harray.symm.trans hvalue)
  refine ⟨⟨form, ys, harray, Option.some.inj hform, hpointwise⟩, ?_⟩
  rw [htint]
  decide +kernel

end ShadingGraph
