import ShadingGraph.Proofs.Network.Pruning
import ShadingGraph.Proofs.OrderedMap
import ShadingGraph.Proofs.Shading.Outcome

/-!
# What a conversion looks at

Whether a conversion fails is decided at its root. Its result depends on the nodes that the root
reaches and on their shaders, and on nothing else: the same nodes in another network, under another
catalog that describes them alike, are converted to the same shading nodes. Connections to paths
outside of the network have no effect.

## Main definitions

- `ShaderCatalog.FailsAt` — why nothing can be made of a root
- `ShaderCatalog.DescribesAlike` — a catalog that describes what a root reaches as another one does

## Main results

- `ShaderCatalog.convert_fails_iff` — a conversion fails at its root, for the first of four reasons
- `ShaderCatalog.convert_eq_of_prunesBelow` — what a root reaches is all that matters, dangling
  connections apart
- `ShaderCatalog.convert_reads_reached`, `ShaderCatalog.convert_ignores_dangling` — both sides of it
-/

namespace ShadingGraph

namespace ShaderCatalog

/-! ## Failure -/

/-- Why nothing can be made of a root: the first of the things that it lacks, in the order of the
constructors. -/
inductive FailsAt (c : ShaderCatalog) (net : MaterialNetwork) (root : String) :
    ConversionError → Prop where
  | missingNode (hnode : net.node? root = none) : FailsAt c net root (.missingNode root)
  | unknownShader {node : MaterialNode} (hnode : net.node? root = some node)
    (hdescribe : c.describe node.typeId = none) :
    FailsAt c net root (.unknownShader root node.typeId)
  | unknownContext {node : MaterialNode} {descriptor : ShaderDescriptor}
    (hnode : net.node? root = some node) (hdescribe : c.describe node.typeId = some descriptor)
    (hkind : classify node.typeId descriptor.context = none) :
    FailsAt c net root (.unknownContext root descriptor.name descriptor.context)
  | missingImplementation {node : MaterialNode} {descriptor : ShaderDescriptor} {kind : ShadingKind}
    (hnode : net.node? root = some node) (hdescribe : c.describe node.typeId = some descriptor)
    (hkind : classify node.typeId descriptor.context = some kind)
    (huri : descriptor.resolvedUri = "") :
    FailsAt c net root (.missingImplementation root descriptor.name)

section Failure

variable {c : ShaderCatalog} {net : MaterialNetwork} {root : String} {node : MaterialNode}
  {e : ConversionError}

theorem failsAt_of_convertNode {failed : List String} (hnode : net.node? root = some node)
    (h : c.convertNode net failed root node = .error e) : c.FailsAt net root e := by
  rw [convertNode] at h
  split at h
  · rename_i hdescribe
    cases h
    exact .unknownShader hnode hdescribe
  · rename_i descriptor hdescribe
    split at h
    · rename_i hkind
      cases h
      exact .unknownContext hnode hdescribe hkind
    · rename_i kind hkind
      split at h
      · rename_i huri
        cases h
        exact .missingImplementation hnode hdescribe hkind (String.isEmpty_iff.1 huri)
      · cases h

theorem convert_eq_error_iff_failsAt : c.convert net root = .error e ↔ c.FailsAt net root e := by
  rw [convert_eq_error_iff]
  constructor
  · rintro (⟨hnode, rfl⟩ | ⟨node, hnode, h⟩)
    · exact .missingNode hnode
    · exact failsAt_of_convertNode hnode h
  · rintro (hnode | ⟨hnode, hdescribe⟩ | ⟨hnode, hdescribe, hkind⟩ |
      ⟨hnode, hdescribe, hkind, huri⟩)
    · exact Or.inl ⟨hnode, rfl⟩
    · exact Or.inr ⟨_, hnode, by rw [convertNode, hdescribe]⟩
    · exact Or.inr ⟨_, hnode, by simp only [convertNode, hdescribe, hkind]⟩
    · exact Or.inr ⟨_, hnode, by simp [convertNode, hdescribe, hkind, huri]⟩

end Failure

/-- A conversion fails exactly where its root is not in the network, has no shader, a shader of no
kind or one without an implementation, and the first of these is the reason that it gives. Whatever
else stands in the network, above or below the root, it fails in the same way. -/
theorem convert_fails_iff (c : ShaderCatalog) (net : MaterialNetwork) (root : String) :
    ((∃ e, c.convert net root = .error e) ↔
        net.node? root = none ∨ ∃ node, net.node? root = some node ∧
          (c.describe node.typeId = none ∨ ∃ descriptor, c.describe node.typeId = some descriptor ∧
            (classify node.typeId descriptor.context = none ∨ descriptor.resolvedUri = ""))) ∧
      (∀ e, c.convert net root = .error e ↔ c.FailsAt net root e) ∧
      ∀ net' : MaterialNetwork,
        (net'.node? root).map MaterialNode.typeId = (net.node? root).map MaterialNode.typeId →
        ∀ e, c.convert net' root = .error e ↔ c.convert net root = .error e := by
  refine ⟨?_, fun e => convert_eq_error_iff_failsAt, fun net' htype e =>
    convert_eq_error_congr htype⟩
  simp only [convert_eq_error_iff_failsAt]
  constructor
  · rintro ⟨e, hnode | ⟨hnode, hdescribe⟩ | ⟨hnode, hdescribe, hkind⟩ |
      ⟨hnode, hdescribe, -, huri⟩⟩
    · exact Or.inl hnode
    · exact Or.inr ⟨_, hnode, Or.inl hdescribe⟩
    · exact Or.inr ⟨_, hnode, Or.inr ⟨_, hdescribe, Or.inl hkind⟩⟩
    · exact Or.inr ⟨_, hnode, Or.inr ⟨_, hdescribe, Or.inr huri⟩⟩
  · rintro (hnode | ⟨node, hnode, hdescribe | ⟨descriptor, hdescribe, hlacks⟩⟩)
    · exact ⟨_, .missingNode hnode⟩
    · exact ⟨_, .unknownShader hnode hdescribe⟩
    · cases hkind : classify node.typeId descriptor.context with
      | none => exact ⟨_, .unknownContext hnode hdescribe hkind⟩
      | some kind =>
        have huri : descriptor.resolvedUri = "" := hlacks.resolve_left (by simp [hkind])
        exact ⟨_, .missingImplementation hnode hdescribe hkind huri⟩

end ShaderCatalog

/-- A root that has not been built fails on the cycle as it does on its own. -/
theorem convert_fails_sampleCycle :
    sampleCatalog.convert sampleCycle "A" = .error (.missingImplementation "A" "Unbuilt") ∧
      sampleCatalog.convert ⟨.ofList [("A", .ofType "Unbuilt")], ∅⟩ "A" =
        .error (.missingImplementation "A" "Unbuilt") := by
  obtain ⟨-, hreason, hroot⟩ := ShaderCatalog.convert_fails_iff sampleCatalog sampleCycle "A"
  have hnode : sampleCycle.node? "A" = some (fedBy "Unbuilt" "B") := rfl
  have hdescribe : sampleCatalog.describe "Unbuilt" = some (sampleShader "Unbuilt" "pattern") := rfl
  have hfails : sampleCatalog.convert sampleCycle "A" =
      .error (.missingImplementation "A" "Unbuilt") :=
    (hreason _).2 (.missingImplementation hnode hdescribe rfl rfl)
  exact ⟨hfails, (hroot ⟨.ofList [("A", .ofType "Unbuilt")], ∅⟩ rfl _).2 hfails⟩

namespace ShaderCatalog

/-! ## What is looked at below the root -/

/-- Another catalog describes the nodes that a root reaches as the first one does, and takes the
same files for images. -/
structure DescribesAlike (c : ShaderCatalog) (net : MaterialNetwork) (root : String)
    (c' : ShaderCatalog) : Prop where
  describe : ∀ path node, net.Reaches root path → net.node? path = some node →
    c'.describe node.typeId = c.describe node.typeId
  isImage : c'.isImage = c.isImage

section Pruning

variable {c c' : ShaderCatalog} {net net' : MaterialNetwork} {root path : String}
  {failed : List String} {node node' : MaterialNode}

theorem referenceOf_of_dangling {descriptor : ShaderDescriptor} {entry : String × Connection}
    (h : net.Dangling entry.2.node) : c.referenceOf net failed descriptor entry = none := by
  rw [referenceOf, h]
  rfl

theorem referenceOf_eq_of_prunesBelow (h : net.PrunesBelow root net')
    (hdescribe : c.DescribesAlike net root c') (descriptor : ShaderDescriptor)
    {entry : String × Connection} (hreaches : net.Reaches root entry.2.node) :
    c'.referenceOf net' failed descriptor entry = c.referenceOf net failed descriptor entry := by
  cases hfeeding : net.node? entry.2.node with
  | none =>
    rw [referenceOf_of_dangling hfeeding,
      referenceOf_of_dangling (h.node?_eq_none hreaches hfeeding)]
  | some feeding =>
    obtain ⟨feeding', hfeeding', hprunes⟩ := h.exists_node hreaches hfeeding
    rw [referenceOf, referenceOf, hfeeding, hfeeding']
    simp only [Option.bind_eq_bind, Option.bind_some, hprunes.typeId,
      hdescribe.describe _ feeding hreaches hfeeding]

theorem convertNode_eq_of_prunesBelow (h : net.PrunesBelow root net')
    (hdescribe : c.DescribesAlike net root c') (hreaches : net.Reaches root path)
    (hnode : net.node? path = some node) (hprunes : net.PrunesNode node node') :
    c'.convertNode net' failed path node' = c.convertNode net failed path node := by
  have hconnections : ∀ descriptor,
      node'.connections.filterMap (c'.referenceOf net' failed descriptor) =
        node.connections.filterMap (c.referenceOf net failed descriptor) := fun descriptor =>
    hprunes.connections.filterMap_eq
      (fun entry hentry => referenceOf_eq_of_prunesBelow h hdescribe descriptor
        (hreaches.tail (MaterialNetwork.dependsOn_of_connection hnode hentry)))
      (fun entry hdangling => referenceOf_of_dangling hdangling)
  simp only [convertNode, convertConnections, convertParameters, hprunes.typeId,
    hprunes.parameters, hdescribe.describe path node hreaches hnode, hdescribe.isImage,
    hconnections]

theorem convertAll_eq_of_prunesBelow (h : net.PrunesBelow root net')
    (hdescribe : c.DescribesAlike net root c') {order order' : List (String × MaterialNode)}
    (horder : List.Forall₂ (net.PrunesEntry root) order order') :
    c'.convertAll net' order' = c.convertAll net order := by
  rw [convertAll, convertAll]
  generalize (⟨[], []⟩ : Conversions) = s
  induction horder generalizing s with
  | nil => rfl
  | @cons entry entry' order order' hentry _ ih =>
    have hadd : c'.addConversion net' s entry' = c.addConversion net s entry := by
      rw [addConversion, addConversion, hentry.path,
        convertNode_eq_of_prunesBelow h hdescribe hentry.reaches hentry.node hentry.prunes]
    rw [List.foldl_cons, List.foldl_cons, hadd]
    exact ih _

/-- A conversion only depends on what its root reaches, and not on dangling connections there. -/
theorem convert_eq_of_prunesBelow (h : net.PrunesBelow root net')
    (hdescribe : c.DescribesAlike net root c') : c'.convert net' root = c.convert net root := by
  cases hnode : net.node? root with
  | none => rw [convert_of_missing hnode, convert_of_missing (h.node?_eq_none .refl hnode)]
  | some node =>
    obtain ⟨node', hnode', hprunes⟩ := h.exists_node .refl hnode
    have hbelow : ∀ p ∈ node.dependencies, net.Reaches root p := fun p hp =>
      .single ⟨node, hnode, hp⟩
    have horder := (h.postOrder hbelow hprunes.dependencies (.refl net [root])).1
    have hconversions : c'.convertBelow net' root node' = c.convertBelow net root node :=
      convertAll_eq_of_prunesBelow h hdescribe horder
    rw [convert_of_node hnode, convert_of_node hnode', hconversions,
      convertNode_eq_of_prunesBelow h hdescribe .refl hnode hprunes]

/-- The same nodes below a root, described alike, are converted to the same shading nodes. -/
theorem convert_eq_of_agree
    (hnodes : ∀ path, net.Reaches root path → net'.node? path = net.node? path)
    (hdescribe : c.DescribesAlike net root c') : c'.convert net' root = c.convert net root := by
  refine convert_eq_of_prunesBelow (fun path hreaches => ?_) hdescribe
  rw [hnodes path hreaches]
  cases net.node? path with
  | none => exact .none
  | some node => exact .some (.refl net node)

end Pruning

theorem DescribesAlike.refl (c : ShaderCatalog) (net : MaterialNetwork) (root : String) :
    c.DescribesAlike net root c :=
  ⟨fun _ _ _ _ => rfl, rfl⟩

end ShaderCatalog

/-! ## What is not looked at -/

/-- A shader that is registered changes the lookup of its own identifier only. -/
theorem ShaderRegistry.lookup_register_of_ne (r : ShaderRegistry) {d : ShaderDescriptor}
    {identifier : String} (h : identifier ≠ d.identifier) (sourceTypes : List String) :
    (r.register d).lookup sourceTypes identifier = r.lookup sourceTypes identifier := by
  rw [lookup, lookup, register, OrderedMap.alter, OrderedMap.find?_insert, if_neg h]

namespace ShaderCatalog

/-- A conversion reads only what its root reaches and the shaders of it. Nodes that the root does
not reach, terminals, the order of the nodes and shaders of other types make no difference. -/
theorem convert_reads_reached (c : ShaderCatalog) (net : MaterialNetwork) (root : String) :
    (∀ (c' : ShaderCatalog) (net' : MaterialNetwork),
        (∀ path, net.Reaches root path → net'.node? path = net.node? path) →
        c.DescribesAlike net root c' → c'.convert net' root = c.convert net root) ∧
      (∀ path, ¬ net.Reaches root path →
        (∀ node, c.convert (net.addNode path node) root = c.convert net root) ∧
          c.convert (net.removeNode path) root = c.convert net root) ∧
      (∀ nodes terminals, nodes.entries.Perm net.nodes.entries →
        c.convert ⟨nodes, terminals⟩ root = c.convert net root) ∧
      ∀ d : ShaderDescriptor,
        (∀ path node, net.Reaches root path → net.node? path = some node →
          node.typeId ≠ d.identifier) →
        ShaderCatalog.convert { c with registry := c.registry.register d } net root =
          c.convert net root := by
  have halike := DescribesAlike.refl c net root
  refine ⟨fun c' net' hnodes hdescribe => convert_eq_of_agree hnodes hdescribe,
    fun path hunreached => ⟨fun node => ?_, ?_⟩, fun nodes terminals hperm => ?_,
    fun d hother => ?_⟩
  · refine convert_eq_of_agree (fun other hreaches => ?_) halike
    rw [MaterialNetwork.node?, MaterialNetwork.addNode, OrderedMap.find?_insert, if_neg]
    · rfl
    · rintro rfl
      exact hunreached hreaches
  · refine convert_eq_of_agree (fun other hreaches => ?_) halike
    rw [MaterialNetwork.node?, MaterialNetwork.removeNode, OrderedMap.find?_erase, if_neg]
    · rfl
    · rintro rfl
      exact hunreached hreaches
  · exact convert_eq_of_agree (fun other _ => OrderedMap.find?_eq_of_perm hperm other) halike
  · refine convert_eq_of_agree (fun _ _ => rfl) ⟨fun path node hreaches hnode => ?_, rfl⟩
    exact c.registry.lookup_register_of_ne (hother path node hreaches hnode) c.sourceTypes

end ShaderCatalog

/-- From the cycle, another node and another shader change nothing, and neither does another order
of the nodes or a terminal. -/
theorem convert_sampleCycle_elsewhere :
    ShaderCatalog.convert
        { sampleCatalog with
          registry := sampleCatalog.registry.register (sampleShader "Other" "bxdf") }
        (sampleCycle.addNode "U" (fedBy "Other" "R")) "R" = sampleCatalog.convert sampleCycle "R" ∧
      sampleCatalog.convert (sampleCycle.addNode "U" (fedBy "Unbuilt" "R")) "R" =
        sampleCatalog.convert sampleCycle "R" ∧
      sampleCatalog.convert ⟨.ofList sampleCycle.nodes.entries.reverse,
          .ofList [("surface", ⟨"R", "out"⟩)]⟩ "R" = sampleCatalog.convert sampleCycle "R" ∧
      ShaderCatalog.convert
          { sampleCatalog with
            registry := sampleCatalog.registry.register (sampleShader "Other" "bxdf") }
          sampleCycle "R" = sampleCatalog.convert sampleCycle "R" := by
  obtain ⟨hagree, hunreached, horder, hregister⟩ :=
    ShaderCatalog.convert_reads_reached sampleCatalog sampleCycle "R"
  have hcases : ∀ path, sampleCycle.Reaches "R" path → path = "B" ∨ path = "A" ∨ path = "R" := by
    intro path h
    have hvisited : (sampleCycle.postOrder ["R"] []).visited = ["B", "A", "R"] := by cbv
    simpa [hvisited] using MaterialNetwork.mem_visited_iff_reaches.2 h
  have hnew : ¬ sampleCycle.Reaches "R" "U" := fun h => absurd (hcases "U" h) (by decide)
  have hreverse : (OrderedMap.ofList sampleCycle.nodes.entries.reverse).entries.Perm
      sampleCycle.nodes.entries :=
    List.reverse_perm sampleCycle.nodes.entries
  refine ⟨hagree _ _ ?_ ?_, (hunreached "U" hnew).1 _, horder _ _ hreverse, hregister _ ?_⟩
  · intro path h
    rcases hcases path h with rfl | rfl | rfl <;> rfl
  · refine ⟨fun path node h hnode => ?_, rfl⟩
    rcases hcases path h with rfl | rfl | rfl <;> cases hnode <;> rfl
  · intro path node h hnode
    rcases hcases path h with rfl | rfl | rfl <;> cases hnode <;> decide

/-! ## Dangling connections -/

/-- Connections to paths outside of the network have no effect: without any of them, every
conversion returns what it returns with them. -/
theorem ShaderCatalog.convert_ignores_dangling {net net' : MaterialNetwork} (h : net.Prunes net')
    (c : ShaderCatalog) (root : String) : c.convert net' root = c.convert net root :=
  convert_eq_of_prunesBelow (h.below root) (.refl c net root)

/-- A root with a connection that counts between two that lead nowhere. -/
def sampleLoose : MaterialNetwork :=
  ⟨.ofList [("R", ((fedBy "Built" "Gone").connect "in" ⟨"B", "out"⟩).connect "in" ⟨"Gone", "out"⟩),
    ("B", .ofType "Built")], ∅⟩

theorem convert_sampleLoose :
    sampleCatalog.convert
        (sampleLoose.modifyNode "R" fun _ =>
          (fedBy "Built" "B").connect "in" ⟨"Gone", "out"⟩) "R" =
      sampleCatalog.convert sampleLoose "R" := by
  refine ShaderCatalog.convert_ignores_dangling (MaterialNetwork.prunes_modifyNode ?_) _ _
  intro node hnode
  cases hnode
  exact ⟨rfl, rfl, .drop rfl (.keep _ (.keep _ .nil))⟩

end ShadingGraph
