import ShadingGraph.Filter.Chain
import ShadingGraph.Proofs.Filter.Expansion
import ShadingGraph.Proofs.Shading.References

/-!
# Filtering adds no dependencies

What the expansion connects comes from nodes that the vstruct connections came from, so a filtered
network has no edge that was not there before. Everything that a root reaches it reached before, and
a conversion emits no more nodes.

## Main definitions

- `MaterialNetwork.ThinnerThan` — the same nodes and types, with no edge that the other has not
- `NetworkFilter.ThinsOut` — a filter that keeps the paths and adds no edge

## Main results

- `ShaderCatalog.expandVstructs_thinnerThan` — the expansion of vstructs thins a network out
- `FilterChain.execute_thinnerThan` — so does a chain of filters that do
- `MaterialNetwork.ThinnerThan.reaches`, `MaterialNetwork.ThinnerThan.acyclicFrom` — paths and
  cycles
- `MaterialNetwork.ThinnerThan.convert_eq_error_iff`, `MaterialNetwork.ThinnerThan.handles_subset` —
  conversions
- `FilterChain.execute_adds_no_dependency` — all this for chains of that expansion
-/

namespace ShadingGraph

namespace MaterialNetwork

/-- A network has the nodes of another one, of the same types, and no node depends on a path that it
does not depend on there. -/
structure ThinnerThan (net' net : MaterialNetwork) : Prop where
  typeId : ∀ path,
    (net'.node? path).map MaterialNode.typeId = (net.node? path).map MaterialNode.typeId
  dependencies : ∀ path node node', net.node? path = some node → net'.node? path = some node' →
    node'.dependencies ⊆ node.dependencies

namespace ThinnerThan

variable {net net' net'' : MaterialNetwork} {c : ShaderCatalog} {root path other : String}

theorem refl (net : MaterialNetwork) : net.ThinnerThan net where
  typeId path := rfl
  dependencies path node node' hnode hnode' := by
    rw [hnode, Option.some.injEq] at hnode'
    rw [hnode']
    exact List.Subset.refl _

theorem exists_node {node' : MaterialNode} (h : net'.ThinnerThan net)
    (hnode' : net'.node? path = some node') :
    ∃ node, net.node? path = some node ∧ node'.typeId = node.typeId ∧
      node'.dependencies ⊆ node.dependencies := by
  have htype := h.typeId path
  rw [hnode', Option.map_some, eq_comm, Option.map_eq_some_iff] at htype
  obtain ⟨node, hnode, htype⟩ := htype
  exact ⟨node, hnode, htype.symm, h.dependencies path node node' hnode hnode'⟩

theorem trans (h' : net''.ThinnerThan net') (h : net'.ThinnerThan net) :
    net''.ThinnerThan net where
  typeId path := (h'.typeId path).trans (h.typeId path)
  dependencies path node node'' hnode hnode'' := by
    obtain ⟨node', hnode', -, hdependencies'⟩ := h'.exists_node hnode''
    exact List.Subset.trans hdependencies' (h.dependencies path node node' hnode hnode')

/-! ## Paths and cycles -/

theorem dependsOn (h : net'.ThinnerThan net) (hdep : net'.DependsOn path other) :
    net.DependsOn path other := by
  obtain ⟨node', hnode', hmem⟩ := hdep
  obtain ⟨node, hnode, -, hdependencies⟩ := h.exists_node hnode'
  exact ⟨node, hnode, hdependencies hmem⟩

theorem reaches (h : net'.ThinnerThan net) (hreaches : net'.Reaches root path) :
    net.Reaches root path :=
  Relation.ReflTransGen.mono (fun _ _ => h.dependsOn) _ _ hreaches

theorem acyclicFrom (h : net'.ThinnerThan net) (hacyclic : net.AcyclicFrom root) :
    net'.AcyclicFrom root := by
  intro path hreaches hcycle
  have hcycle' := Relation.TransGen.mono (fun _ _ => h.dependsOn) _ _ hcycle
  exact hacyclic path (h.reaches hreaches) hcycle'

/-! ## Conversions -/

theorem convert_eq_error_iff (h : net'.ThinnerThan net) {e : ConversionError} :
    c.convert net' root = .error e ↔ c.convert net root = .error e :=
  ShaderCatalog.convert_eq_error_congr (h.typeId root)

theorem exists_convert (h : net'.ThinnerThan net) {nodes' : List ShadingNode}
    (hconvert : c.convert net' root = .ok nodes') : ∃ nodes, c.convert net root = .ok nodes := by
  cases hold : c.convert net root with
  | ok nodes => exact ⟨nodes, rfl⟩
  | error e =>
    rw [h.convert_eq_error_iff.2 hold] at hconvert
    cases hconvert

/-- A conversion emits nothing that it did not emit with all the edges. -/
theorem handles_subset (h : net'.ThinnerThan net) {nodes nodes' : List ShadingNode}
    (hconvert' : c.convert net' root = .ok nodes') (hconvert : c.convert net root = .ok nodes) :
    nodes'.map (·.handle) ⊆ nodes.map (·.handle) := by
  intro path hpath
  obtain ⟨hreaches, node', hnode', descriptor, kind, hdescribe, hkind, huri⟩ :=
    (ShaderCatalog.mem_handles_of_convert hconvert').1 hpath
  obtain ⟨node, hnode, htype, -⟩ := h.exists_node hnode'
  rw [htype] at hdescribe hkind
  exact (ShaderCatalog.mem_handles_of_convert hconvert).2
    ⟨h.reaches hreaches, node, hnode, descriptor, kind, hdescribe, hkind, huri⟩

end ThinnerThan

end MaterialNetwork

/-! ## Filters -/

theorem MaterialNode.mem_dependencies_iff {node : MaterialNode} {other : String} :
    other ∈ node.dependencies ↔
      ∃ e ∈ node.inputs.entries, ∃ connection ∈ e.2, connection.node = other := by
  simp only [MaterialNode.dependencies, MaterialNode.connections, List.mem_map, List.mem_flatMap]
  constructor
  · rintro ⟨_, ⟨e, he, connection, hconnection, rfl⟩, rfl⟩
    exact ⟨e, he, connection, hconnection, rfl⟩
  · rintro ⟨e, he, connection, hconnection, rfl⟩
    exact ⟨(e.1, connection), ⟨e, he, connection, hconnection, rfl⟩, rfl⟩

namespace ShaderCatalog

variable {c : ShaderCatalog} {net : MaterialNetwork} {node node' : MaterialNode}

/-- What the expansion connects to an input comes from a node that feeds a vstruct input. -/
theorem node_mem_dependencies_of_expandedFeed? {d : ShaderDescriptor} {input : String}
    {connection : Connection} (h : c.expandedFeed? net d node input = some connection) :
    connection.node ∈ node.dependencies := by
  obtain ⟨p, hp, -, hmember⟩ := exists_pair_of_expandedFeed? h
  obtain ⟨e, he, -, hold, -⟩ := ShaderDescriptor.mem_memberPairs_iff.1 hp
  obtain ⟨source, -, -, front, output, back, -, -, -, rfl⟩ := memberFeed?_eq_some_iff.1 hmember
  exact MaterialNode.mem_dependencies_iff.2 ⟨e, he, p.1, hold, rfl⟩

theorem Rewrites.dependencies_subset (h : c.Rewrites net node node') :
    node'.dependencies ⊆ node.dependencies := by
  cases hdescribe : c.describe node.typeId with
  | none =>
    rw [h.unknown hdescribe]
    exact List.Subset.refl _
  | some d =>
    intro other hother
    obtain ⟨e, he, connection, hconnection, rfl⟩ := MaterialNode.mem_dependencies_iff.1 hother
    rw [h.entries d hdescribe, rewrittenEntries] at he
    rcases List.mem_append.1 he with hkept | hnew
    · obtain ⟨old, hold, rfl⟩ := List.mem_map.1 hkept
      rcases List.mem_append.1 hconnection with hbefore | hfed
      · exact MaterialNode.mem_dependencies_iff.2
          ⟨old, (List.mem_filter.1 hold).1, connection, hbefore, rfl⟩
      · exact node_mem_dependencies_of_expandedFeed? (Option.mem_toList.1 hfed)
    · obtain ⟨input, -, rfl⟩ := List.mem_map.1 hnew
      exact node_mem_dependencies_of_expandedFeed? (Option.mem_toList.1 hconnection)

theorem expandVstructs_thinnerThan (c : ShaderCatalog) (net : MaterialNetwork) :
    (c.expandVstructs net).1.ThinnerThan net where
  typeId path := by
    cases hnode : net.node? path with
    | none => rw [node?_expandVstructs, hnode]; rfl
    | some node =>
      obtain ⟨node', hnode', hrewrites⟩ := exists_rewrites (c := c) hnode
      rw [hnode', Option.map_some, Option.map_some, hrewrites.typeId]
  dependencies path node node' hnode hnode' := by
    obtain ⟨found, hfound, hrewrites⟩ := exists_rewrites (c := c) hnode
    rw [hnode', Option.some.injEq] at hfound
    subst hfound
    exact hrewrites.dependencies_subset

end ShaderCatalog

/-- A filter keeps the paths of every network in their order, and thins the network out. -/
structure NetworkFilter.ThinsOut (filter : NetworkFilter) : Prop where
  paths : ∀ c materialId net, (filter.apply c materialId net).1.paths = net.paths
  thinner : ∀ c materialId net, (filter.apply c materialId net).1.ThinnerThan net

theorem NetworkFilter.thinsOut_resolveVstructs : resolveVstructs.ThinsOut where
  paths c _ net := (c.expandVstructs_rewrites net).1
  thinner c _ net := c.expandVstructs_thinnerThan net

namespace FilterChain

/-- Filters that thin out do so one after the other. -/
theorem execute_thinnerThan {chain : FilterChain} (h : ∀ filter ∈ chain, filter.ThinsOut)
    (c : ShaderCatalog) (materialId : String) (net : MaterialNetwork) :
    (chain.execute c materialId net).1.paths = net.paths ∧
      (chain.execute c materialId net).1.ThinnerThan net := by
  refine List.foldlRecOn (motive := fun s : MaterialNetwork × List String =>
    s.1.paths = net.paths ∧ s.1.ThinnerThan net) _ _ ⟨rfl, .refl net⟩ ?_
  rintro s ⟨hpaths, hthinner⟩ filter hfilter
  have hfilter := h filter hfilter
  exact ⟨(hfilter.paths c materialId s.1).trans hpaths,
    (hfilter.thinner c materialId s.1).trans hthinner⟩

/-- Resolving vstructs adds no dependencies, however often it is done: each node depends on nothing
that it did not depend on before. So no cycle comes about below a root, conversions fail as they
did, and else emit no new node. -/
theorem execute_adds_no_dependency {chain : FilterChain}
    (h : ∀ filter ∈ chain, filter = .resolveVstructs) (c : ShaderCatalog) (materialId : String)
    (net : MaterialNetwork) :
    (chain.execute c materialId net).1.paths = net.paths ∧
      (∀ path node', (chain.execute c materialId net).1.node? path = some node' →
        ∃ node, net.node? path = some node ∧ node'.dependencies ⊆ node.dependencies) ∧
      ∀ (converting : ShaderCatalog) (root : String),
        (net.AcyclicFrom root → (chain.execute c materialId net).1.AcyclicFrom root) ∧
          (∀ e, converting.convert (chain.execute c materialId net).1 root = .error e ↔
            converting.convert net root = .error e) ∧
          ∀ nodes', converting.convert (chain.execute c materialId net).1 root = .ok nodes' →
            ∃ nodes, converting.convert net root = .ok nodes ∧
              nodes'.map (·.handle) ⊆ nodes.map (·.handle) := by
  have hthins : ∀ filter ∈ chain, filter.ThinsOut := fun filter hfilter =>
    h filter hfilter ▸ NetworkFilter.thinsOut_resolveVstructs
  obtain ⟨hpaths, hthinner⟩ := execute_thinnerThan hthins c materialId net
  refine ⟨hpaths, fun path node' hnode' => ?_, fun converting root => ?_⟩
  · obtain ⟨node, hnode, -, hdependencies⟩ := hthinner.exists_node hnode'
    exact ⟨node, hnode, hdependencies⟩
  · refine ⟨hthinner.acyclicFrom, fun e => hthinner.convert_eq_error_iff,
      fun nodes' hconvert' => ?_⟩
    obtain ⟨nodes, hconvert⟩ := hthinner.exists_convert hconvert'
    exact ⟨nodes, hconvert, hthinner.handles_subset hconvert' hconvert⟩

end FilterChain

theorem dependsOn_sampleLayers {path other : String} (h : sampleLayers.DependsOn path other) :
    path = "B" ∧ other ≠ "B" := by
  obtain ⟨node, hnode, hdep⟩ := h
  have hentry := MaterialNetwork.mem_paths_of_node hnode
  have hpaths : path = "A" ∨ path = "B" := by simpa using (show path ∈ ["A", "B"] from hentry)
  rcases hpaths with rfl | rfl
  · cases hnode
    cases hdep
  · cases hnode
    have hother : other ∈ ["Gone", "A", "A"] := hdep
    refine ⟨rfl, ?_⟩
    rintro rfl
    exact absurd hother (by decide)

theorem acyclicFrom_sampleLayers : sampleLayers.AcyclicFrom "B" := by
  intro path _ hcycle
  obtain ⟨_, hfirst, -⟩ := Relation.TransGen.head'_iff.1 hcycle
  obtain ⟨_, -, hlast⟩ := Relation.TransGen.tail'_iff.1 hcycle
  exact (dependsOn_sampleLayers hlast).2 (dependsOn_sampleLayers hfirst).1

theorem execute_sampleLayers :
    (∀ filter ∈ FilterChain.standard, filter = .resolveVstructs) ∧
      (FilterChain.standard.execute layerCatalog "M" sampleLayers).1.AcyclicFrom "B" ∧
      ∃ nodes nodes',
        layerCatalog.convert (FilterChain.standard.execute layerCatalog "M" sampleLayers).1 "B" =
          .ok nodes' ∧
        layerCatalog.convert sampleLayers "B" = .ok nodes ∧
        nodes'.map (·.handle) ⊆ nodes.map (·.handle) := by
  have hstandard : ∀ filter ∈ FilterChain.standard, filter = .resolveVstructs :=
    fun filter hfilter => List.mem_singleton.1 hfilter
  obtain ⟨-, -, hroots⟩ :=
    FilterChain.execute_adds_no_dependency hstandard layerCatalog "M" sampleLayers
  obtain ⟨hacyclic, -, hconvert⟩ := hroots layerCatalog "B"
  have hfiltered : (layerCatalog.convert (FilterChain.standard.execute layerCatalog "M"
      sampleLayers).1 "B").isOk = true := by cbv
  cases hresult : layerCatalog.convert (FilterChain.standard.execute layerCatalog "M"
      sampleLayers).1 "B" with
  | error e =>
    rw [hresult] at hfiltered
    cases hfiltered
  | ok nodes' =>
    obtain ⟨nodes, hnodes, hsubset⟩ := hconvert nodes' hresult
    exact ⟨hstandard, hacyclic acyclicFrom_sampleLayers, nodes, nodes', rfl, hnodes, hsubset⟩

end ShadingGraph
