import ShadingGraph.Proofs.Filter.Expansion

/-!
# Vstruct connections that the expansion leaves

The expansion removes every vstruct connection that a network has. Where a member of a vstruct is a
vstruct in turn, it makes a connection of that kind itself, and a second expansion finds it.

## Main definitions

- `ShaderCatalog.HasVstructConnection` — a vstruct input that has a connection
- `ShaderCatalog.NestsVstruct` — a vstruct input that is to be connected as the member of another
- `ShaderCatalog.Flat` — shaders none of whose members is a vstruct

## Main results

- `ShaderCatalog.hasVstructConnection_iff` — what is left is what was nested
- `ShaderCatalog.vstruct_free_iff` — nothing is left, and a second expansion changes nothing,
  exactly when nothing was nested
- `ShaderCatalog.not_nestsVstruct_of_flat` — nothing is nested where no member is a vstruct
-/

namespace ShadingGraph

namespace ShaderCatalog

/-- A node whose type is known has a connection on an input that is declared as a vstruct. -/
def HasVstructConnection (c : ShaderCatalog) (net : MaterialNetwork) (path input : String) : Prop :=
  ∃ node d, net.node? path = some node ∧ c.describe node.typeId = some d ∧
    isVstruct (d.input? input) = true ∧ node.connectionsTo input ≠ []

/-- An input without a connection that is declared as a vstruct is the member of another vstruct
input, and a connection of that one has a matching member to offer. -/
def NestsVstruct (c : ShaderCatalog) (net : MaterialNetwork) (path input : String) : Prop :=
  ∃ node d, net.node? path = some node ∧ c.describe node.typeId = some d ∧
    isVstruct (d.input? input) = true ∧ node.connectionsTo input = [] ∧
    ∃ p ∈ d.memberPairs node.inputs.entries, p.2.name = input ∧ c.memberFeed? net p.1 p.2 ≠ none

/-- No input that is a member of a vstruct is declared as a vstruct. -/
def Flat (c : ShaderCatalog) : Prop :=
  ∀ typeId d, c.describe typeId = some d → ∀ p ∈ d.inputs, p.memberOf ≠ none →
    isVstruct (d.input? p.name) = false

variable {c : ShaderCatalog} {net : MaterialNetwork} {path input : String}

/-- The vstruct inputs that are connected after the expansion are those that were nested before. -/
theorem hasVstructConnection_iff :
    c.HasVstructConnection (c.expandVstructs net).1 path input ↔ c.NestsVstruct net path input := by
  rw [HasVstructConnection, NestsVstruct]
  cases hnode : net.node? path with
  | none => simp [node?_expandVstructs, hnode]
  | some node =>
    obtain ⟨node', hnode', hrewrites⟩ := exists_rewrites (c := c) hnode
    simp only [hnode', Option.some.injEq, ↓existsAndEq, true_and, hrewrites.typeId]
    refine exists_congr fun d => and_congr_right fun hdescribe => and_congr_right fun hvstruct => ?_
    rw [hrewrites.connectionsTo hdescribe, if_pos hvstruct, List.nil_append,
      ← expandedFeed?_ne_none_iff]
    cases c.expandedFeed? net d node input <;> simp

/-- A vstruct input that has an entry after the expansion has a connection. -/
theorem hasVstructConnection_of_mem_keys {node' : MaterialNode} {d : ShaderDescriptor}
    (hnode' : (c.expandVstructs net).1.node? path = some node')
    (hdescribe : c.describe node'.typeId = some d) (hkey : input ∈ node'.inputs.keys)
    (hvstruct : isVstruct (d.input? input) = true) :
    c.HasVstructConnection (c.expandVstructs net).1 path input := by
  refine ⟨node', d, hnode', hdescribe, hvstruct, ?_⟩
  rw [node?_expandVstructs] at hnode'
  obtain ⟨node, hnode, rfl⟩ := Option.map_eq_some_iff.1 hnode'
  have hrewrites := c.rewrites_of_applyTo net path node
  rw [hrewrites.typeId] at hdescribe
  have hplain : input ∉ (d.plainEntries node).map Prod.fst := by
    intro hmem
    obtain ⟨e, he, rfl⟩ := List.mem_map.1 hmem
    have hnot := (List.mem_filter.1 he).2
    simp [hvstruct] at hnot
  have hfed : c.expandedFeed? net d node input ≠ none := by
    rw [OrderedMap.keys, hrewrites.entries d hdescribe, rewrittenEntries, List.map_append] at hkey
    rcases List.mem_append.1 hkey with hold | hnew
    · exact absurd (by simpa using hold) hplain
    · have hmem : input ∈ c.expandedInputs net d node := by
        simp only [List.map_map, List.mem_map, Function.comp_apply, exists_eq_right] at hnew
        exact (List.mem_filter.1 hnew).1
      exact mem_expandedInputs_iff.1 hmem
  rw [hrewrites.connectionsTo hdescribe]
  cases hfeed : c.expandedFeed? net d node input with
  | none => exact absurd hfeed hfed
  | some connection => simp

/-- Where no vstruct input has an entry, there is nothing to expand. -/
theorem expandVstructs_of_plain
    (h : ∀ path node d, net.node? path = some node → c.describe node.typeId = some d →
      ∀ input ∈ node.inputs.keys, isVstruct (d.input? input) = false) :
    c.expandVstructs net = (net, []) := by
  have hempty : ∀ path node, net.node? path = some node → c.expandNode net path node = .empty := by
    intro path node hnode
    cases hdescribe : c.describe node.typeId with
    | none => exact expandNode_of_unknown hdescribe
    | some d => exact expandNode_of_plain hdescribe (h path node d hnode hdescribe)
  have hnodes : (c.expandAt net net.paths).nodes = net.nodes := by
    apply OrderedMap.ext
    rw [expandAt, OrderedMap.entries_mapValues]
    refine (List.map_congr_left fun e he => ?_).trans (List.map_id _)
    rw [hempty e.1 e.2 (OrderedMap.find?_of_mem he), VstructExpansion.applyTo_empty, ite_self]
    rfl
  have hproblems : net.paths.flatMap (c.problemsAt net) = [] := by
    refine List.flatMap_eq_nil_iff.2 fun path _ => ?_
    rw [problemsAt]
    cases hnode : net.node? path with
    | none => rfl
    | some node => rw [Option.map_some, hempty path node hnode]; rfl
  rw [expandVstructs_eq, hproblems]
  exact congrArg (fun nodes => ((⟨nodes, net.terminals⟩ : MaterialNetwork), [])) hnodes

/-- A vstruct connection does not survive an expansion. -/
theorem expandVstructs_ne_of_hasVstructConnection (h : c.HasVstructConnection net path input) :
    (c.expandVstructs net).1 ≠ net := by
  intro hsame
  obtain ⟨node, d, hnode, hdescribe, hvstruct, hconnected⟩ := h
  obtain ⟨node', hnode', hrewrites⟩ := exists_rewrites (c := c) hnode
  rw [hsame, hnode, Option.some.injEq] at hnode'
  subst hnode'
  have hgone := hrewrites.connectionsTo hdescribe input
  rw [if_pos hvstruct, expandedFeed?, if_neg hconnected] at hgone
  exact hconnected hgone

/-- After the expansion, a vstruct input is connected exactly if it was nested; and where nothing
was nested, and only there, a second expansion changes nothing and meets no problem. -/
theorem vstruct_free_iff (c : ShaderCatalog) (net : MaterialNetwork) :
    (∀ path input, c.HasVstructConnection (c.expandVstructs net).1 path input ↔
      c.NestsVstruct net path input) ∧
    (c.expandVstructs (c.expandVstructs net).1 = ((c.expandVstructs net).1, []) ↔
      ∀ path input, ¬ c.NestsVstruct net path input) := by
  refine ⟨fun path input => hasVstructConnection_iff, ?_⟩
  constructor
  · intro hsecond path input hnests
    apply expandVstructs_ne_of_hasVstructConnection (hasVstructConnection_iff.2 hnests)
    rw [hsecond]
  · intro hnone
    apply expandVstructs_of_plain
    intro path node d hnode hdescribe input hkey
    rw [← Bool.not_eq_true]
    intro hvstruct
    exact hnone path input (hasVstructConnection_iff.1
      (hasVstructConnection_of_mem_keys hnode hdescribe hkey hvstruct))

/-- Where no member is a vstruct, nothing is nested. -/
theorem not_nestsVstruct_of_flat (h : c.Flat) : ¬ c.NestsVstruct net path input := by
  rintro ⟨node, d, -, hdescribe, hvstruct, -, p, hp, rfl, -⟩
  obtain ⟨e, -, -, -, hinput, hmemberOf⟩ := ShaderDescriptor.mem_memberPairs_iff.1 hp
  have hplain := h node.typeId d hdescribe p.2 hinput (by simp [hmemberOf])
  rw [hplain] at hvstruct
  cases hvstruct

end ShaderCatalog

/-- The coat of a layer is a layer in turn, and its connection is left. -/
theorem exists_vstruct_connection_left :
    layerCatalog.HasVstructConnection (layerCatalog.expandVstructs sampleLayers).1 "B" "coat" ∧
      layerCatalog.expandVstructs (layerCatalog.expandVstructs sampleLayers).1 ≠
        ((layerCatalog.expandVstructs sampleLayers).1, []) := by
  have hleft : layerCatalog.HasVstructConnection (layerCatalog.expandVstructs sampleLayers).1 "B"
      "coat" := by
    exact ⟨_, _, rfl, rfl, rfl, by decide⟩
  refine ⟨hleft, fun hsecond => ?_⟩
  apply ShaderCatalog.expandVstructs_ne_of_hasVstructConnection hleft
  rw [hsecond]

end ShadingGraph
