import Mathlib.Data.List.Permutation
import ShadingGraph.Proofs.Shading.Walk

/-!
# What a conversion returns

The loop over pending tasks does what a plain recursion over the network does, and returns a shading
node for each node that the root reaches and that converts, the root last.

## Main definitions

- `ShaderCatalog.convertRecursively` — the conversion as a recursion

## Main results

- `ShaderCatalog.convert_of_missing`, `ShaderCatalog.convert_of_node` — the outcome, by the order
- `ShaderCatalog.convert_eq_convertRecursively` — the loop and the recursion agree
- `ShaderCatalog.emission_of_convert` — which nodes are emitted, and as what
-/

namespace ShadingGraph

namespace ShaderCatalog

variable {c : ShaderCatalog} {net : MaterialNetwork} {root : String} {nodes : List ShadingNode}

/-! ## The outcome by the order -/

theorem convert_of_missing (h : net.node? root = none) :
    c.convert net root = .error (.missingNode root) := by
  have hstep : (Walk.start root).step c net root (.enter root) [] = .error (.missingNode root) := by
    simp [Walk.start, Walk.step, Walk.enter, h]
  rw [convert, Walk.runWalk_of_task rfl, hstep]
  rfl

def convertBelow (c : ShaderCatalog) (net : MaterialNetwork) (root : String) (node : MaterialNode) :
    Conversions :=
  c.convertAll net (net.postOrder node.dependencies [root]).result

/-- The root is converted against the failures below it; there the conversion may fail. -/
theorem convert_of_node {node : MaterialNode} (h : net.node? root = some node) :
    c.convert net root =
      (c.convertNode net (c.convertBelow net root node).failed root node).map fun n =>
        (c.convertBelow net root node).emitted ++ [n] := by
  have horder := MaterialNetwork.orderFrom_of_node h
  rcases Walk.Reached.start.exists_end with ⟨w, hw, hpending, hrun⟩ |
    ⟨w, task, rest, e, hw, hpending, hstep, hrun⟩
  · -- The walk has dealt with the whole order, the root included, which did not fail.
    obtain ⟨done, hdone, hconversions⟩ := hw.follows
    rw [hpending, MaterialNetwork.ahead, List.append_nil, horder] at hdone
    rw [← hdone] at hconversions
    rcases c.convertAll_concat_cases net _ root node with ⟨n, hn, heq⟩ | ⟨e, -, heq⟩
    · rw [convert, hrun, convertBelow, hn]
      exact congrArg (fun s : Conversions => Except.ok s.emitted) (hconversions.trans heq)
    · have hfailed : w.failed = root :: _ := congrArg Conversions.failed (hconversions.trans heq)
      exact absurd (hfailed ▸ List.mem_cons_self) hw.root_not_mem_failed
  · rcases Walk.of_step_error hstep with ⟨-, -, hnone, -⟩ | ⟨node', rfl, hconvert⟩
    · rw [h] at hnone
      cases hnone
    · obtain ⟨front, back, hsplit, hconversions⟩ := hw.follows_emit hpending
      obtain ⟨rfl, rfl, -⟩ := MaterialNetwork.orderFrom_split_unique hsplit horder
      have hfailed : w.failed = _ := congrArg Conversions.failed hconversions
      rw [convert, hrun, convertBelow, ← hfailed, hconvert]
      rfl

/-- A conversion fails only where its root is not in the network or fails by itself. -/
theorem convert_eq_error_iff {e : ConversionError} :
    c.convert net root = .error e ↔
      (net.node? root = none ∧ e = .missingNode root) ∨
        ∃ node, net.node? root = some node ∧ c.convertNode net [] root node = .error e := by
  cases hnode : net.node? root with
  | none => simp [convert_of_missing hnode, eq_comm]
  | some node =>
    have hcongr := @convertNode_eq_error_congr c net [] root node net
      (c.convertBelow net root node).failed node rfl e
    rw [convert_of_node hnode]
    simp only [reduceCtorEq, false_and, false_or, Option.some.injEq, exists_eq_left', ← hcongr]
    cases c.convertNode net (c.convertBelow net root node).failed root node <;> simp [Except.map]

/-- Whether and how a conversion fails depends on the type of its root alone. -/
theorem convert_eq_error_congr {net' : MaterialNetwork}
    (h : (net'.node? root).map MaterialNode.typeId = (net.node? root).map MaterialNode.typeId)
    {e : ConversionError} : c.convert net' root = .error e ↔ c.convert net root = .error e := by
  rw [convert_eq_error_iff, convert_eq_error_iff]
  cases hnode : net.node? root with
  | none =>
    rw [hnode, Option.map_none, Option.map_eq_none_iff] at h
    rw [h]
    simp
  | some node =>
    rw [hnode, Option.map_some, Option.map_eq_some_iff] at h
    obtain ⟨node', hnode', htype⟩ := h
    simp only [hnode', reduceCtorEq, false_and, false_or, Option.some.injEq, exists_eq_left']
    exact convertNode_eq_error_congr htype

/-- A result holds the conversions of the whole order, and its root converts. -/
theorem exists_root_of_convert (h : c.convert net root = .ok nodes) :
    ∃ node, net.node? root = some node ∧ c.Converts node ∧
      nodes = (c.convertAll net (net.orderFrom root)).emitted := by
  cases hnode : net.node? root with
  | none =>
    rw [convert_of_missing hnode] at h
    cases h
  | some node =>
    rw [convert_of_node hnode, convertBelow] at h
    rw [MaterialNetwork.orderFrom_of_node hnode]
    rcases c.convertAll_concat_cases net _ root node with ⟨n, hn, heq⟩ | ⟨e, he, -⟩
    · rw [hn] at h
      cases h
      exact ⟨node, rfl, converts_of_convertNode hn, by rw [heq]⟩
    · rw [he] at h
      cases h

/-! ## The recursion -/

/-- The conversion as a recursion. Below the root, a path is entered at most once and passed over
where it is not in the network; else the paths that its node depends on are dealt with in the order
of the connections, and then the node is converted against the failures so far and appended, or its
failure is noted. The root is entered first and converted last. -/
def convertRecursively (c : ShaderCatalog) (net : MaterialNetwork) (root : String) :
    Except ConversionError (List ShadingNode) :=
  match net.node? root with
  | none => .error (.missingNode root)
  | some node =>
    let below := (net.traverse (c.addConversion net) node.dependencies ⟨[root], ⟨[], []⟩⟩).result
    (c.convertNode net below.failed root node).map fun n => below.emitted ++ [n]

/-- The loop over pending tasks returns what the recursion returns. -/
theorem convert_eq_convertRecursively (c : ShaderCatalog) (net : MaterialNetwork) (root : String) :
    c.convert net root = c.convertRecursively net root := by
  cases hnode : net.node? root with
  | none => rw [convert_of_missing hnode, convertRecursively, hnode]
  | some node =>
    have hbelow : c.convertBelow net root node =
        (net.traverse (c.addConversion net) node.dependencies ⟨[root], ⟨[], []⟩⟩).result := by
      rw [MaterialNetwork.traverse_eq_foldl]
      rfl
    rw [convert_of_node hnode, convertRecursively, hnode, hbelow]

/-! ## Which nodes are emitted -/

theorem nodup_handles_of_convert (h : c.convert net root = .ok nodes) :
    (nodes.map (·.handle)).Nodup := by
  obtain ⟨-, -, -, rfl⟩ := exists_root_of_convert h
  exact (net.nodup_orderFrom root).sublist (c.handles_sublist net _)

theorem getLast?_handles_of_convert (h : c.convert net root = .ok nodes) :
    (nodes.map (·.handle)).getLast? = some root := by
  obtain ⟨node, hnode, hconverts, rfl⟩ := exists_root_of_convert h
  rw [(c.convertAll_paths net _).1, MaterialNetwork.orderFrom_of_node hnode]
  simp [hconverts]

/-- A path is emitted if the root reaches it and there is a node at it that converts. -/
theorem mem_handles_of_convert (h : c.convert net root = .ok nodes) {path : String} :
    path ∈ nodes.map (·.handle) ↔
      net.Reaches root path ∧ ∃ node, net.node? path = some node ∧ c.Converts node := by
  obtain ⟨-, -, -, rfl⟩ := exists_root_of_convert h
  simp only [mem_handles_convertAll_iff, MaterialNetwork.mem_orderFrom_iff, and_assoc,
    exists_and_left]

theorem exists_convertNode_of_mem (h : c.convert net root = .ok nodes) {n : ShadingNode}
    (hn : n ∈ nodes) :
    ∃ failed node, net.node? n.handle = some node ∧
      c.convertNode net failed n.handle node = .ok n := by
  obtain ⟨-, -, -, rfl⟩ := exists_root_of_convert h
  obtain ⟨before, after, hsplit⟩ := List.append_of_mem hn
  obtain ⟨front, node, back, horder, -, hconvert⟩ := emitted_split hsplit
  exact ⟨_, node, (MaterialNetwork.reaches_of_split horder).2, hconvert⟩

/-- What a result holds: no handle twice, the root last, exactly the nodes that the root reaches and
that convert, each with the kind of its shader and the name that the kind asks for. -/
theorem emission_of_convert (h : c.convert net root = .ok nodes) :
    (nodes.map (·.handle)).Nodup ∧
      (nodes.map (·.handle)).getLast? = some root ∧
      (∀ path, path ∈ nodes.map (·.handle) ↔
        net.Reaches root path ∧
          ∃ node descriptor kind, net.node? path = some node ∧
            c.describe node.typeId = some descriptor ∧
            classify node.typeId descriptor.context = some kind ∧ descriptor.resolvedUri ≠ "") ∧
      ∀ n ∈ nodes, ∃ node descriptor, net.node? n.handle = some node ∧
        c.describe node.typeId = some descriptor ∧
        classify node.typeId descriptor.context = some n.kind ∧
        n.name =
          if n.kind = .displacement ∨ n.kind = .light ∨ n.kind = .lightFilter then
            descriptor.implementationName
          else descriptor.resolvedUri := by
  refine ⟨nodup_handles_of_convert h, getLast?_handles_of_convert h, fun path => ?_,
    fun n hn => ?_⟩
  · rw [mem_handles_of_convert h]
    simp only [Converts, exists_and_left]
  · obtain ⟨failed, node, hnode, hconvert⟩ := exists_convertNode_of_mem h hn
    obtain ⟨descriptor, hdescribe, hkind, hname⟩ := shader_of_convertNode hconvert
    exact ⟨node, descriptor, hnode, hdescribe, hkind, hname⟩

end ShaderCatalog

/-! ## A cycle through a node that fails -/

def sampleShader (identifier context : String) : ShaderDescriptor :=
  (ShaderDescriptor.ofIdentifier identifier oslSource context).withProperties
    [.named "in" .float] [.named "out" .float]

/-- A surface, and a pattern that has not been built. -/
def sampleCatalog : ShaderCatalog :=
  ⟨.ofList [(sampleShader "Built" "bxdf").withImplementation "Built.oso",
    sampleShader "Unbuilt" "pattern"], [], fun _ => false⟩

/-- A node that one other node feeds. -/
def fedBy (typeId feeding : String) : MaterialNode :=
  (MaterialNode.ofType typeId).connect "in" ⟨feeding, "out"⟩

/-- A root fed by a node that fails, which lies on a cycle with one that converts. -/
def sampleCycle : MaterialNetwork :=
  ⟨.ofList [("R", fedBy "Built" "A"), ("A", fedBy "Unbuilt" "B"), ("B", fedBy "Built" "A")], ∅⟩

def surfaceAt (handle : String) (parameters : List (String × ShadingParameter)) : ShadingNode :=
  ⟨.bxdf, handle, "Built.oso", .ofList parameters⟩

/-- The node that fails is still ahead when the other one on the cycle is converted. -/
theorem convert_sampleCycle :
    sampleCatalog.convert sampleCycle "R" =
      .ok [surfaceAt "B" [("in", .reference .float "A:out")], surfaceAt "R" []] := by
  cbv

theorem emission_of_sampleCycle :
    (∃ nodes, sampleCatalog.convert sampleCycle "R" = .ok nodes) ∧
      ∀ path, path ∈ ["B", "R"] ↔
        sampleCycle.Reaches "R" path ∧
          ∃ node descriptor kind, sampleCycle.node? path = some node ∧
            sampleCatalog.describe node.typeId = some descriptor ∧
            classify node.typeId descriptor.context = some kind ∧ descriptor.resolvedUri ≠ "" :=
  ⟨⟨_, convert_sampleCycle⟩, (ShaderCatalog.emission_of_convert convert_sampleCycle).2.2.1⟩

/-! ## A node that two others depend on -/

/-- Two nodes fed by a third one feed the root. One of them feeds itself as well, and a connection
of the root comes from nowhere. -/
def sampleShared : MaterialNetwork :=
  ⟨.ofList [("R", ((fedBy "Built" "B").connect "in" ⟨"C", "out"⟩).connect "in" ⟨"Gone", "out"⟩),
    ("B", fedBy "Built" "A"), ("C", (fedBy "Built" "C").connect "in" ⟨"A", "out"⟩),
    ("A", .ofType "Built")], ∅⟩

/-- The node that both depend on is converted once, in front of both. -/
theorem convertRecursively_sampleShared :
    sampleCatalog.convertRecursively sampleShared "R" =
      .ok [surfaceAt "A" [], surfaceAt "B" [("in", .reference .float "A:out")],
        surfaceAt "C" [("in", .reference .float "A:out")],
        surfaceAt "R" [("in", .reference .float "C:out")]] := by
  rw [← ShaderCatalog.convert_eq_convertRecursively]
  cbv

end ShadingGraph
