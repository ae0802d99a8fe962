import ShadingGraph.Proofs.Shading.Provenance

/-!
# Which nodes the references of a result name

A node is converted behind what it depends on, cycles apart, so what its references name stands in
front of it. On a cycle a node can be converted before a node that feeds it; if that one fails later
on, the reference is left dangling.

## Main definitions

- `MaterialNetwork.AcyclicFrom` — no node that the root reaches lies on a cycle
- `ShaderCatalog.Decides` — the connection behind a reference of a node, by the order alone
- `ShaderCatalog.LeftDangling` — a reference to a node that is still ahead and is going to fail

## Main results

- `ShaderCatalog.references_in_order` — what is named stands in front, or on a cycle with the node
- `ShaderCatalog.madeFrom_iff_decides` — the connections behind the references of a result
- `ShaderCatalog.references_resolve_iff` — all references of a result resolve unless one is left
  dangling
-/

namespace ShadingGraph

/-- No path that a root reaches depends on itself. -/
def MaterialNetwork.AcyclicFrom (net : MaterialNetwork) (root : String) : Prop :=
  ∀ path, net.Reaches root path → ¬ Relation.TransGen net.DependsOn path path

theorem MaterialNetwork.AcyclicFrom.not_reaches {net : MaterialNetwork} {root path other : String}
    (h : net.AcyclicFrom root) (hreaches : net.Reaches root path)
    (hdep : net.DependsOn path other) : ¬ net.Reaches other path :=
  fun hback => h path hreaches (.head' hdep hback)

namespace ShaderCatalog

variable {c : ShaderCatalog} {net : MaterialNetwork} {root path name : String}
  {node feeding : MaterialNode} {n : ShadingNode} {before after nodes : List ShadingNode}
  {entry : String × Connection} {descriptor : ShaderDescriptor}
  {front back : List (String × MaterialNode)}

/-! ## References in order -/

/-- An emitted node has a place in the order, behind the nodes of what was emitted before it. -/
theorem exists_split_of_convert (h : c.convert net root = .ok (before ++ n :: after)) :
    ∃ front node back, net.orderFrom root = front ++ (n.handle, node) :: back ∧
      before = (c.convertAll net front).emitted := by
  obtain ⟨-, -, -, hnodes⟩ := exists_root_of_convert h
  obtain ⟨front, node, back, hsplit, hbefore, -⟩ := emitted_split hnodes.symm
  exact ⟨front, node, back, hsplit, hbefore⟩

theorem emitted_before_or_reaches (h : c.convert net root = .ok (before ++ n :: after))
    (hmade : c.MadeFrom net root n name entry) :
    entry.2.node ∈ before.map (·.handle) ∨ net.Reaches entry.2.node n.handle := by
  obtain ⟨front, node, back, hsplit, rfl⟩ := exists_split_of_convert h
  obtain ⟨reference, hrefers⟩ := (madeFrom_iff h (by simp) hsplit).1 hmade
  obtain ⟨hentry, hfailed, ⟨feeding, hfeeding⟩, -⟩ := hrefers.feeding
  obtain ⟨hreaches, hnode⟩ := MaterialNetwork.reaches_of_split hsplit
  have hdep := MaterialNetwork.dependsOn_of_connection hnode hentry
  rw [mem_failed_convertAll_iff, MaterialNetwork.exists_mem_front_iff hsplit hfeeding] at hfailed
  rw [mem_handles_convertAll_iff, MaterialNetwork.exists_mem_front_iff hsplit hfeeding]
  refine (MaterialNetwork.precedes_or_reaches hreaches hdep hfeeding).imp_left fun hprecedes => ?_
  exact ⟨hprecedes, by_contra fun hfails => hfailed ⟨hprecedes, hfails⟩⟩

theorem MadeFrom.mem_connections (h : c.MadeFrom net root n name entry) :
    ∃ node, net.node? n.handle = some node ∧ net.Reaches root n.handle ∧
      entry ∈ node.connections := by
  obtain ⟨w, node, rest, reference, hw, hpending, -, hrefers⟩ := h
  obtain ⟨front, back, hsplit, -⟩ := hw.follows_emit hpending
  obtain ⟨hreaches, hnode⟩ := MaterialNetwork.reaches_of_split hsplit
  exact ⟨node, hnode, hreaches, hrefers.feeding.1⟩

/-- Every reference of an emitted node was made from a connection, and names what was emitted before
the node, unless that depends on the node in turn; without cycles it never does. -/
theorem references_in_order (h : c.convert net root = .ok (before ++ n :: after)) :
    (∀ name type target, n.parameters.find? name = some (.reference type target) →
        ∃ entry output, c.MadeFrom net root n name entry ∧
          target = referenceTarget entry.2.node output) ∧
      (∀ name entry, c.MadeFrom net root n name entry →
        entry.2.node ∈ before.map (·.handle) ∨ net.Reaches entry.2.node n.handle) ∧
      (net.AcyclicFrom root → ∀ name entry, c.MadeFrom net root n name entry →
        entry.2.node ∈ before.map (·.handle)) := by
  refine ⟨fun name type target => exists_madeFrom h (by simp),
    fun name entry => emitted_before_or_reaches h, ?_⟩
  intro hacyclic name entry hmade
  obtain ⟨node, hnode, hreaches, hentry⟩ := hmade.mem_connections
  have hdep := MaterialNetwork.dependsOn_of_connection hnode hentry
  exact (emitted_before_or_reaches h hmade).resolve_right (hacyclic.not_reaches hreaches hdep)

end ShaderCatalog

def sampleChain : MaterialNetwork :=
  ⟨.ofList [("R", fedBy "Built" "B"), ("B", .ofType "Built")], ∅⟩

theorem dependsOn_sampleChain {path other : String} (h : sampleChain.DependsOn path other) :
    path = "R" ∧ other = "B" := by
  obtain ⟨node, hnode, hdep⟩ := h
  have hentry := MaterialNetwork.mem_paths_of_node hnode
  have hpaths : path = "R" ∨ path = "B" := by simpa using (show path ∈ ["R", "B"] from hentry)
  rcases hpaths with rfl | rfl
  · cases hnode
    exact ⟨rfl, List.mem_singleton.1 hdep⟩
  · cases hnode
    cases hdep

theorem acyclicFrom_sampleChain : sampleChain.AcyclicFrom "R" := by
  intro path _ hcycle
  obtain ⟨_, hfirst, -⟩ := Relation.TransGen.head'_iff.1 hcycle
  obtain ⟨_, -, hlast⟩ := Relation.TransGen.tail'_iff.1 hcycle
  have hsame := (dependsOn_sampleChain hfirst).1.symm.trans (dependsOn_sampleChain hlast).2
  exact absurd hsame (by decide)

theorem convert_sampleChain :
    sampleCatalog.convert sampleChain "R" =
      .ok ([surfaceAt "B" []] ++ surfaceAt "R" [("in", .reference .float "B:out")] :: []) := by
  cbv

theorem references_in_order_sampleChain :
    (∃ nodes, sampleCatalog.convert sampleChain "R" = .ok nodes) ∧
      ∃ entry output,
        sampleCatalog.MadeFrom sampleChain "R"
          (surfaceAt "R" [("in", .reference .float "B:out")]) "in" entry ∧
        "B:out" = referenceTarget entry.2.node output ∧ entry.2.node ∈ ["B"] := by
  obtain ⟨hprovenance, -, hacyclic⟩ := ShaderCatalog.references_in_order convert_sampleChain
  obtain ⟨entry, output, hmade, htarget⟩ := hprovenance "in" .float "B:out" rfl
  exact ⟨⟨_, convert_sampleChain⟩, entry, output, hmade, htarget,
    hacyclic acyclicFrom_sampleChain "in" entry hmade⟩

namespace ShaderCatalog

variable {c : ShaderCatalog} {net : MaterialNetwork} {root path name : String}
  {node feeding : MaterialNode} {n : ShadingNode} {nodes : List ShadingNode}
  {entry : String × Connection} {descriptor : ShaderDescriptor}
  {front back : List (String × MaterialNode)}

/-! ## Dangling references -/

/-- A connection of the node at a path is expressed under a name: it could have a reference, and the
node that feeds it converts or does not stand in front, where its failure would be known. -/
def Expresses (c : ShaderCatalog) (net : MaterialNetwork) (root path : String)
    (descriptor : ShaderDescriptor) (name : String) (entry : String × Connection) : Prop :=
  ∃ feeding reference, net.node? entry.2.node = some feeding ∧
    c.referenceOf net [] descriptor entry = some (name, reference) ∧
    (c.Converts feeding ∨ ¬ net.Precedes root entry.2.node path)

/-- A connection is behind the reference that the node at a path has under a name: it is the last
one that is expressed under the name. -/
def Decides (c : ShaderCatalog) (net : MaterialNetwork) (root path name : String)
    (entry : String × Connection) : Prop :=
  ∃ node descriptor front back, net.node? path = some node ∧
    c.describe node.typeId = some descriptor ∧ node.connections = front ++ entry :: back ∧
    c.Expresses net root path descriptor name entry ∧
    ∀ later ∈ back, ¬ c.Expresses net root path descriptor name later

/-- A reference is left dangling: the node at a path is emitted, and the connection behind one of
its references comes from a node that fails. -/
def LeftDangling (c : ShaderCatalog) (net : MaterialNetwork) (root path name : String)
    (entry : String × Connection) : Prop :=
  net.Reaches root path ∧ (∃ node, net.node? path = some node ∧ c.Converts node) ∧
    c.Decides net root path name entry ∧
    ∃ feeding, net.node? entry.2.node = some feeding ∧ ¬ c.Converts feeding

/-- What has failed in front of a node are the nodes in front of it that do not convert. -/
theorem not_mem_failed_iff (hsplit : net.orderFrom root = front ++ (path, node) :: back)
    {other : String} (hother : net.node? other = some feeding) :
    other ∉ (c.convertAll net front).failed ↔
      c.Converts feeding ∨ ¬ net.Precedes root other path := by
  rw [mem_failed_convertAll_iff, MaterialNetwork.exists_mem_front_iff hsplit hother, not_and_or,
    not_not]
  exact or_comm

theorem exists_referenceOf_iff (hsplit : net.orderFrom root = front ++ (path, node) :: back) :
    (∃ r, c.referenceOf net (c.convertAll net front).failed descriptor entry = some (name, r)) ↔
      c.Expresses net root path descriptor name entry := by
  constructor
  · rintro ⟨r, hr⟩
    obtain ⟨hfailed, hreference⟩ := referenceOf_iff_not_mem_failed.1 hr
    obtain ⟨feeding, -, -, -, -, hfeeding, -⟩ := referenceOf_eq_some_iff.1 hreference
    exact ⟨feeding, r, hfeeding, hreference, (not_mem_failed_iff hsplit hfeeding).1 hfailed⟩
  · rintro ⟨feeding, r, hfeeding, hreference, hknown⟩
    have hfailed := (not_mem_failed_iff hsplit hfeeding).2 hknown
    exact ⟨r, referenceOf_iff_not_mem_failed.2 ⟨hfailed, hreference⟩⟩

/-- The connections behind the references of an emitted node, by the order alone. -/
theorem madeFrom_iff_decides (h : c.convert net root = .ok nodes) (hn : n ∈ nodes) :
    c.MadeFrom net root n name entry ↔ c.Decides net root n.handle name entry := by
  obtain ⟨before, after, rfl⟩ := List.append_of_mem hn
  obtain ⟨front, node, back, hsplit, -⟩ := exists_split_of_convert h
  have hnode := (MaterialNetwork.reaches_of_split hsplit).2
  rw [madeFrom_iff h hn hsplit]
  constructor
  · rintro ⟨reference, descriptor, earlier, later, hdescribe, hconnections, hentry, hlast⟩
    refine ⟨node, descriptor, earlier, later, hnode, hdescribe, hconnections,
      (exists_referenceOf_iff hsplit).1 ⟨reference, hentry⟩, fun e he hexpress => ?_⟩
    obtain ⟨r, hr⟩ := (exists_referenceOf_iff hsplit).2 hexpress
    exact hlast e he r hr
  · rintro ⟨node', descriptor, earlier, later, hnode', hdescribe, hconnections, hexpress, hlast⟩
    rw [hnode, Option.some.injEq] at hnode'
    subst hnode'
    obtain ⟨reference, hentry⟩ := (exists_referenceOf_iff hsplit).2 hexpress
    exact ⟨reference, descriptor, earlier, later, hdescribe, hconnections, hentry,
      fun e he r hr => hlast e he ((exists_referenceOf_iff hsplit).1 ⟨r, hr⟩)⟩

/-- A reference resolves if the node that feeds its connection converts. -/
theorem MadeFrom.mem_handles_iff (hmade : c.MadeFrom net root n name entry)
    (h : c.convert net root = .ok nodes) :
    entry.2.node ∈ nodes.map (·.handle) ↔
      ∀ feeding, net.node? entry.2.node = some feeding → c.Converts feeding := by
  obtain ⟨node, hnode, hreaches, hentry⟩ := hmade.mem_connections
  have hreach : net.Reaches root entry.2.node :=
    hreaches.tail (MaterialNetwork.dependsOn_of_connection hnode hentry)
  obtain ⟨w, node', rest, reference, -, -, -, hrefers⟩ := hmade
  obtain ⟨-, -, ⟨feeding, hfeeding⟩, -⟩ := hrefers.feeding
  rw [mem_handles_of_convert h]
  simp [hreach, hfeeding]

theorem Decides.dependsOn (h : c.Decides net root path name entry) :
    net.DependsOn path entry.2.node := by
  obtain ⟨node, descriptor, earlier, later, hnode, -, hconnections, -⟩ := h
  exact MaterialNetwork.dependsOn_of_connection hnode (by simp [hconnections])

/-- What is left dangling lies on a cycle: the node that fails depends on the one that refers to
it. -/
theorem LeftDangling.reaches (h : c.LeftDangling net root path name entry) :
    net.Reaches entry.2.node path := by
  obtain ⟨hreaches, -, hdecides, feeding, hfeeding, hfails⟩ := h
  have hdep := hdecides.dependsOn
  obtain ⟨node, descriptor, earlier, later, -, -, -, hexpress, -⟩ := hdecides
  obtain ⟨feeding', reference, hfeeding', -, hknown⟩ := hexpress
  rw [hfeeding, Option.some.injEq] at hfeeding'
  subst hfeeding'
  exact (MaterialNetwork.precedes_or_reaches hreaches hdep hfeeding).resolve_left
    (hknown.resolve_left hfails)

/-- Without cycles, nothing is left dangling. -/
theorem not_leftDangling_of_acyclic (h : net.AcyclicFrom root) :
    ¬ c.LeftDangling net root path name entry := by
  intro hdangling
  have hback := hdangling.reaches
  obtain ⟨hreaches, -, hdecides, -⟩ := hdangling
  exact h.not_reaches hreaches hdecides.dependsOn hback

theorem feeding_converts_iff (h : c.convert net root = .ok nodes) :
    (∀ n ∈ nodes, ∀ name entry, c.MadeFrom net root n name entry →
        ∀ feeding, net.node? entry.2.node = some feeding → c.Converts feeding) ↔
      ∀ path name entry, ¬ c.LeftDangling net root path name entry := by
  constructor
  · rintro hall path name entry ⟨hreaches, hconverts, hdecides, feeding, hfeeding, hfails⟩
    have hmem := (mem_handles_of_convert h).2 ⟨hreaches, hconverts⟩
    obtain ⟨n, hn, rfl⟩ := List.mem_map.1 hmem
    have hmade := (madeFrom_iff_decides h hn).2 hdecides
    exact hfails (hall n hn name entry hmade feeding hfeeding)
  · intro hnone n hn name entry hmade feeding hfeeding
    by_contra hfails
    have hmem : n.handle ∈ nodes.map (·.handle) := List.mem_map.2 ⟨n, hn, rfl⟩
    obtain ⟨hreaches, hconverts⟩ := (mem_handles_of_convert h).1 hmem
    have hdecides := (madeFrom_iff_decides h hn).1 hmade
    exact hnone n.handle name entry ⟨hreaches, hconverts, hdecides, feeding, hfeeding, hfails⟩

/-- The references of a result name emitted nodes, and none that fail, exactly when none is left
dangling. -/
theorem references_resolve_iff (h : c.convert net root = .ok nodes) :
    ((∀ n ∈ nodes, ∀ name entry, c.MadeFrom net root n name entry →
        entry.2.node ∈ nodes.map (·.handle)) ↔
      ∀ path name entry, ¬ c.LeftDangling net root path name entry) ∧
    ((∀ n ∈ nodes, ∀ name entry, c.MadeFrom net root n name entry →
        ∀ feeding, net.node? entry.2.node = some feeding → c.Converts feeding) ↔
      ∀ path name entry, ¬ c.LeftDangling net root path name entry) := by
  refine ⟨?_, feeding_converts_iff h⟩
  rw [← feeding_converts_iff h]
  exact forall₂_congr fun n hn => forall₃_congr fun name entry hmade => hmade.mem_handles_iff h

end ShaderCatalog

theorem references_resolve_sampleChain :
    (∃ nodes, sampleCatalog.convert sampleChain "R" = .ok nodes) ∧
      ∀ n ∈ [surfaceAt "B" [], surfaceAt "R" [("in", .reference .float "B:out")]],
        ∀ name entry, sampleCatalog.MadeFrom sampleChain "R" n name entry →
          entry.2.node ∈ ["B", "R"] :=
  ⟨⟨_, convert_sampleChain⟩,
    (ShaderCatalog.references_resolve_iff convert_sampleChain).1.2 fun _ _ _ =>
      ShaderCatalog.not_leftDangling_of_acyclic acyclicFrom_sampleChain⟩

/-- On a cycle, a node that is converted before the failure of one that feeds it keeps its
reference. -/
theorem exists_dangling_reference :
    ∃ nodes n name entry, sampleCatalog.convert sampleCycle "R" = .ok nodes ∧ n ∈ nodes ∧
      sampleCatalog.MadeFrom sampleCycle "R" n name entry ∧
      entry.2.node ∉ nodes.map (·.handle) := by
  have hmem : surfaceAt "B" [("in", .reference .float "A:out")] ∈
      [surfaceAt "B" [("in", .reference .float "A:out")], surfaceAt "R" []] := List.mem_cons_self
  have hreference : (surfaceAt "B" [("in", .reference .float "A:out")]).parameters.find? "in" =
      some (.reference .float "A:out") := rfl
  obtain ⟨entry, output, hmade, -⟩ :=
    ShaderCatalog.exists_madeFrom convert_sampleCycle hmem hreference
  obtain ⟨node, hnode, -, hentry⟩ := hmade.mem_connections
  cases hnode
  obtain rfl := List.mem_singleton.1 hentry
  exact ⟨_, _, "in", _, convert_sampleCycle, hmem, hmade, by decide⟩

end ShadingGraph
