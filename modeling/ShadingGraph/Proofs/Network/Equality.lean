import ShadingGraph.Network.Basic
import ShadingGraph.Proofs.OrderedMap

/-!
# Networks that equal themselves

Numbers compare as numbers, so that a NaN differs from itself, and with it everything that holds it.
Nothing else does.

## Main definitions

- `Value.hasNaN`, `MaterialNode.hasNaN`, `MaterialNetwork.hasNaN` — some number is a NaN

## Main results

- `Value.agrees_self`, `MaterialNode.agrees_self`, `MaterialNetwork.agrees_self` — what holds no NaN
  equals itself
-/

namespace ShadingGraph

theorem Binary.same_self {f : BinaryFormat} (x : Binary f) : x.same x = !x.isNaN := by
  cases hx : x.isNaN <;> simp [Binary.same, hx]

theorem Triple.agrees_self {f : BinaryFormat} (v : Triple (Binary f)) :
    v.agrees Binary.same v = !v.toList.any Binary.isNaN := by
  simp [Triple.agrees, Triple.toList, Binary.same_self, Bool.and_assoc]

namespace Value

/-- Whether some number of a value is a NaN. -/
def hasNaN : Value → Bool
  | .float x => x.isNaN
  | .vec2 x y => [x, y].any Binary.isNaN
  | .vec3 v => v.toList.any Binary.isNaN
  | .vec3d v => v.toList.any Binary.isNaN
  | .vec4 x y z w => [x, y, z, w].any Binary.isNaN
  | .floatArray xs => xs.any Binary.isNaN
  | .vec3Array vs => vs.any fun v => v.toList.any Binary.isNaN
  | .vec3dArray vs => vs.any fun v => v.toList.any Binary.isNaN
  | .int _ | .bool _ | .string _ | .token _ | .intArray _ | .stringArray _ | .asset _ => false

theorem agreeAll_self {α : Type} (same : α → α → Bool) (xs : List α) :
    agreeAll same xs xs = xs.all fun x => same x x := by
  rw [agreeAll, beq_self_eq_true, Bool.true_and]
  induction xs with
  | nil => rfl
  | cons x xs ih => rw [List.zip_cons_cons, List.all_cons, List.all_cons, ih]

theorem agrees_self (v : Value) : v.agrees v = !v.hasNaN := by
  cases v <;> simp [agrees, hasNaN, agreeAll_self, Binary.same_self, Triple.agrees_self,
    List.not_any_eq_all_not, Bool.and_assoc]

end Value

/-- Whether some authored number of a node is a NaN. -/
def MaterialNode.hasNaN (n : MaterialNode) : Bool := n.parameters.values.any Value.hasNaN

theorem MaterialNode.agrees_self (n : MaterialNode) : n.agrees n = !n.hasNaN := by
  simp [MaterialNode.agrees, MaterialNode.hasNaN, OrderedMap.agrees_self, Value.agrees_self,
    List.not_any_eq_all_not]

/-- Whether some authored number of a network is a NaN. -/
def MaterialNetwork.hasNaN (net : MaterialNetwork) : Bool :=
  net.nodes.values.any MaterialNode.hasNaN

theorem MaterialNetwork.agrees_self (net : MaterialNetwork) : net.agrees net = !net.hasNaN := by
  simp [MaterialNetwork.agrees, MaterialNetwork.hasNaN, OrderedMap.agrees_self,
    MaterialNode.agrees_self, List.not_any_eq_all_not]

end ShadingGraph
