import Mathlib.Data.List.Induction
import ShadingGraph.Shading.Conversion

/-!
# Converting nodes one after another

Whether a node converts depends on its shader alone, and not on the nodes that failed before; those
only decide which references it is given. Here is what becomes of a list of nodes that are converted
in turn, each against the failures so far.

## Main definitions

- `ShaderCatalog.Converts` — a node has a shader of a known kind with an implementation
- `Conversions` — the shading nodes and the failures so far
- `ShaderCatalog.convertAll` — the conversion of a list of nodes

## Main results

- `ShaderCatalog.convertNode_eq_ok_iff` — when a node converts, and what to
- `ShaderCatalog.mem_failed_convertAll_iff`, `ShaderCatalog.mem_handles_convertAll_iff` — which
  nodes fail and which do not
- `ShaderCatalog.emitted_split` — what each shading node was converted against
-/

namespace ShadingGraph

namespace ShaderCatalog

variable {c : ShaderCatalog} {net : MaterialNetwork} {failed : List String} {path : String}
  {node : MaterialNode}

/-- A node has a shader of a known kind, and the implementation of the shader was found. -/
def Converts (c : ShaderCatalog) (node : MaterialNode) : Prop :=
  ∃ descriptor kind, c.describe node.typeId = some descriptor ∧
    classify node.typeId descriptor.context = some kind ∧ descriptor.resolvedUri ≠ ""

/-- The shading node of a node whose shader and kind are known. -/
def shadingNode (c : ShaderCatalog) (net : MaterialNetwork) (failed : List String) (path : String)
    (node : MaterialNode) (descriptor : ShaderDescriptor) (kind : ShadingKind) : ShadingNode where
  kind := kind
  handle := path
  name := if kind.selectsByName then descriptor.implementationName else descriptor.resolvedUri
  parameters :=
    c.convertConnections net failed node descriptor
      (convertParameters c.isImage node descriptor kind ∅)

theorem convertNode_eq_ok_iff {n : ShadingNode} :
    c.convertNode net failed path node = .ok n ↔
      ∃ descriptor kind, c.describe node.typeId = some descriptor ∧
        classify node.typeId descriptor.context = some kind ∧ descriptor.resolvedUri ≠ "" ∧
        n = c.shadingNode net failed path node descriptor kind := by
  rw [convertNode]
  cases hd : c.describe node.typeId with
  | none => simp
  | some descriptor =>
    cases hk : classify node.typeId descriptor.context with
    | none => simp [hk]
    | some kind =>
      by_cases hu : descriptor.resolvedUri = ""
      · simp [hk, hu]
      · simp only [hk, String.isEmpty_iff, hu, if_false, Except.ok.injEq, Option.some.injEq,
          exists_and_left, exists_eq_left', ne_eq, not_false_iff, true_and]
        exact eq_comm

/-- Whether a node converts does not depend on the failures so far. -/
theorem exists_convertNode_iff :
    (∃ n, c.convertNode net failed path node = .ok n) ↔ c.Converts node := by
  simp only [convertNode_eq_ok_iff, Converts]
  constructor
  · rintro ⟨n, descriptor, kind, hd, hk, hu, -⟩
    exact ⟨descriptor, kind, hd, hk, hu⟩
  · rintro ⟨descriptor, kind, hd, hk, hu⟩
    exact ⟨_, descriptor, kind, hd, hk, hu, rfl⟩

instance (c : ShaderCatalog) (node : MaterialNode) : Decidable (c.Converts node) :=
  decidable_of_iff ((c.convertNode ∅ [] "" node).isOk = true) <| by
    rw [← @exists_convertNode_iff c ∅ [] "" node]
    cases c.convertNode ∅ [] "" node <;> simp [Except.isOk, Except.toBool]

theorem converts_of_convertNode {n : ShadingNode} (h : c.convertNode net failed path node = .ok n) :
    c.Converts node :=
  exists_convertNode_iff.1 ⟨n, h⟩

theorem not_converts_of_convertNode {e : ConversionError}
    (h : c.convertNode net failed path node = .error e) : ¬ c.Converts node := by
  intro hconverts
  obtain ⟨n, hn⟩ := exists_convertNode_iff.2 hconverts
  rw [h] at hn
  cases hn

/-- Why a node fails depends on its path and its type alone. -/
theorem convertNode_eq_error_congr {net' : MaterialNetwork} {failed' : List String}
    {node' : MaterialNode} (htype : node'.typeId = node.typeId) {e : ConversionError} :
    c.convertNode net' failed' path node' = .error e ↔
      c.convertNode net failed path node = .error e := by
  rw [convertNode, convertNode, htype]
  cases c.describe node.typeId with
  | none => rfl
  | some descriptor =>
    cases hkind : classify node.typeId descriptor.context with
    | none => simp [hkind]
    | some kind =>
      by_cases huri : descriptor.resolvedUri = "" <;> simp [hkind, huri]

theorem handle_of_convertNode {n : ShadingNode} (h : c.convertNode net failed path node = .ok n) :
    n.handle = path := by
  obtain ⟨descriptor, kind, -, -, -, rfl⟩ := convertNode_eq_ok_iff.1 h
  rfl

/-- The kind of a shading node is that of its shader, and decides which name it has. -/
theorem shader_of_convertNode {n : ShadingNode} (h : c.convertNode net failed path node = .ok n) :
    ∃ descriptor, c.describe node.typeId = some descriptor ∧
      classify node.typeId descriptor.context = some n.kind ∧
      n.name =
        if n.kind = .displacement ∨ n.kind = .light ∨ n.kind = .lightFilter then
          descriptor.implementationName
        else descriptor.resolvedUri := by
  obtain ⟨descriptor, kind, hdescribe, hkind, -, rfl⟩ := convertNode_eq_ok_iff.1 h
  refine ⟨descriptor, hdescribe, hkind, ?_⟩
  cases kind <;> rfl

end ShaderCatalog

/-- What has become of the nodes that were converted so far. -/
structure Conversions where
  /-- The paths of the nodes that could not be converted. -/
  failed : List String
  /-- The shading nodes of the others, in order. -/
  emitted : List ShadingNode

namespace ShaderCatalog

variable {c : ShaderCatalog} {net : MaterialNetwork} {order : List (String × MaterialNode)}

/-- Converts a node against the failures so far: it is appended, or its failure is noted. -/
def addConversion (c : ShaderCatalog) (net : MaterialNetwork) (s : Conversions)
    (entry : String × MaterialNode) : Conversions :=
  match c.convertNode net s.failed entry.1 entry.2 with
  | .ok n => { s with emitted := s.emitted ++ [n] }
  | .error _ => { s with failed := entry.1 :: s.failed }

/-- Converts nodes in turn, each against the failures so far. -/
def convertAll (c : ShaderCatalog) (net : MaterialNetwork) (order : List (String × MaterialNode)) :
    Conversions :=
  order.foldl (c.addConversion net) ⟨[], []⟩

@[simp] theorem convertAll_nil : c.convertAll net [] = ⟨[], []⟩ := rfl

theorem convertAll_concat (entry : String × MaterialNode) :
    c.convertAll net (order ++ [entry]) = c.addConversion net (c.convertAll net order) entry := by
  simp [convertAll]

theorem convertAll_concat_cases (c : ShaderCatalog) (net : MaterialNetwork)
    (order : List (String × MaterialNode)) (path : String) (node : MaterialNode) :
    (∃ n, c.convertNode net (c.convertAll net order).failed path node = .ok n ∧
      c.convertAll net (order ++ [(path, node)]) =
        ⟨(c.convertAll net order).failed, (c.convertAll net order).emitted ++ [n]⟩) ∨
    (∃ e, c.convertNode net (c.convertAll net order).failed path node = .error e ∧
      c.convertAll net (order ++ [(path, node)]) =
        ⟨path :: (c.convertAll net order).failed, (c.convertAll net order).emitted⟩) := by
  rw [convertAll_concat, addConversion]
  split
  · rename_i n hn
    exact Or.inl ⟨n, hn, rfl⟩
  · rename_i e he
    exact Or.inr ⟨e, he, rfl⟩

/-- The nodes that convert are given shading nodes in order, and the others are noted as failures,
the latest first. -/
theorem convertAll_paths (c : ShaderCatalog) (net : MaterialNetwork)
    (order : List (String × MaterialNode)) :
    (c.convertAll net order).emitted.map (·.handle) =
        (order.filter fun e => c.Converts e.2).map Prod.fst ∧
      (c.convertAll net order).failed =
        ((order.filter fun e => ¬ c.Converts e.2).map Prod.fst).reverse := by
  induction order using List.reverseRecOn with
  | nil => simp
  | append_singleton order entry ih =>
    obtain ⟨path, node⟩ := entry
    rcases c.convertAll_concat_cases net order path node with ⟨n, hn, heq⟩ | ⟨e, he, heq⟩
    · simp [heq, ih.1, ih.2, converts_of_convertNode hn, handle_of_convertNode hn]
    · simp [heq, ih.1, ih.2, not_converts_of_convertNode he]

theorem mem_failed_convertAll_iff {path : String} :
    path ∈ (c.convertAll net order).failed ↔
      ∃ node, (path, node) ∈ order ∧ ¬ c.Converts node := by
  rw [(c.convertAll_paths net order).2]
  simp

theorem mem_handles_convertAll_iff {path : String} :
    path ∈ (c.convertAll net order).emitted.map (·.handle) ↔
      ∃ node, (path, node) ∈ order ∧ c.Converts node := by
  rw [(c.convertAll_paths net order).1]
  simp

theorem handles_sublist (c : ShaderCatalog) (net : MaterialNetwork)
    (order : List (String × MaterialNode)) :
    ((c.convertAll net order).emitted.map (·.handle)).Sublist (order.map Prod.fst) := by
  rw [(c.convertAll_paths net order).1]
  exact List.filter_sublist.map Prod.fst

/-- What each shading node was converted against: the failures among the nodes in front of its own,
whose shading nodes are those in front of it. -/
theorem emitted_split {before after : List ShadingNode} {n : ShadingNode}
    (h : (c.convertAll net order).emitted = before ++ n :: after) :
    ∃ front node back, order = front ++ (n.handle, node) :: back ∧
      before = (c.convertAll net front).emitted ∧
      c.convertNode net (c.convertAll net front).failed n.handle node = .ok n := by
  induction order using List.reverseRecOn generalizing after with
  | nil => simp at h
  | append_singleton order entry ih =>
    obtain ⟨path, node⟩ := entry
    rcases c.convertAll_concat_cases net order path node with ⟨m, hm, heq⟩ | ⟨e, he, heq⟩
    · rw [heq] at h
      -- The node asked for is the last one, or one that was converted before it.
      rcases List.eq_nil_or_concat after with rfl | ⟨after', last, rfl⟩
      · obtain ⟨hbefore, hlast⟩ := List.append_inj' h rfl
        cases hlast
        obtain rfl := handle_of_convertNode hm
        exact ⟨order, node, [], rfl, hbefore.symm, hm⟩
      · rw [List.concat_eq_append, ← List.cons_append, ← List.append_assoc] at h
        obtain ⟨front, m, back, rfl, hbefore, hconvert⟩ := ih (List.append_inj' h rfl).1
        exact ⟨front, m, back ++ [(path, node)], by simp, hbefore, hconvert⟩
    · rw [heq] at h
      obtain ⟨front, m, back, rfl, hbefore, hconvert⟩ := ih h
      exact ⟨front, m, back ++ [(path, node)], by simp, hbefore, hconvert⟩

end ShaderCatalog

end ShadingGraph
