import ShadingGraph.Filter.Vstruct
import ShadingGraph.Proofs.Package
import ShadingGraph.Proofs.Shading.Outcome

/-!
# Finding more implementations

A package changes nothing about a shader but where its implementation is, and never takes an
implementation away. The walk does not depend on which nodes convert, so what a conversion returns
with the package is what it returns without it and further nodes in between. The expansion of
vstructs does not look at implementations.

## Main definitions

- `ShaderDescriptor.Resolves` — a shader whose implementation may have been found in addition
- `ShaderCatalog.Extends` — the shaders of a catalog, as another one describes them

## Main results

- `ShaderPackage.extends_resolveImplementations` — a package extends every registry
- `ShaderCatalog.Extends.convert` — an extended catalog converts more nodes, in the same order
- `ShaderCatalog.Extends.expandVstructs_eq` — and expands the same vstructs
- `ShaderPackage.convert_resolveImplementations` — both for a package
-/

namespace ShadingGraph

/-! ## What is found -/

/-- A shader is another one but for its implementation, which is not lost. -/
def ShaderDescriptor.Resolves (d d' : ShaderDescriptor) : Prop :=
  ∃ uri, d' = { d with resolvedUri := uri } ∧ (d.resolvedUri ≠ "" → uri ≠ "")

theorem ShaderDescriptor.Resolves.refl (d : ShaderDescriptor) : d.Resolves d :=
  ⟨d.resolvedUri, rfl, id⟩

namespace ShaderPackage

variable (p : ShaderPackage) (isFile : String → Bool)

theorem resolves_resolveDescriptor (d : ShaderDescriptor) :
    d.Resolves (p.resolveDescriptor isFile d) := by
  unfold resolveDescriptor
  split
  · rename_i found hfound
    exact ⟨found, rfl, fun _ => ne_empty_of_find hfound⟩
  · exact .refl d

end ShaderPackage

/-- Descriptors that keep their source type are looked up as before. -/
theorem ShaderRegistry.lookup_mapDescriptors {f : ShaderDescriptor → ShaderDescriptor}
    (hf : ∀ d, (f d).sourceType = d.sourceType) (r : ShaderRegistry) (sourceTypes : List String)
    (identifier : String) :
    (r.mapDescriptors f).lookup sourceTypes identifier =
      (r.lookup sourceTypes identifier).map f := by
  have hfind : ∀ (t : String) (ds : List ShaderDescriptor),
      (ds.map f).find? (fun d => d.sourceType == t) =
        (ds.find? fun d => d.sourceType == t).map f := by
    intro t ds
    rw [List.find?_map]
    exact congrArg (fun q => (ds.find? q).map f) (funext fun d => by rw [Function.comp_apply, hf])
  unfold lookup mapDescriptors
  rw [OrderedMap.find?_mapValues]
  cases r.shaders.find? identifier with
  | none => rfl
  | some ds =>
    show (if _ then _ else _) = Option.map f (if _ then _ else _)
    by_cases hpreference : sourceTypes.isEmpty
    · rw [if_pos hpreference, if_pos hpreference, List.head?_map]
    · rw [if_neg hpreference, if_neg hpreference, List.map_findSome?]
      exact congrArg (fun g => sourceTypes.findSome? g) (funext fun t => hfind t ds)

namespace ShaderCatalog

/-- A catalog describes the same types as another one, with the same shaders but for their
implementations, of which none is lost. -/
def Extends (c c' : ShaderCatalog) : Prop :=
  ∀ typeId, Option.Rel ShaderDescriptor.Resolves (c.describe typeId) (c'.describe typeId)

end ShaderCatalog

theorem ShaderPackage.extends_resolveImplementations (p : ShaderPackage) (isFile : String → Bool)
    (c : ShaderCatalog) :
    c.Extends { c with registry := p.resolveImplementations isFile c.registry } := by
  intro typeId
  have hkept : ∀ d, (p.resolveDescriptor isFile d).sourceType = d.sourceType := by
    intro d
    obtain ⟨uri, heq, -⟩ := p.resolves_resolveDescriptor isFile d
    rw [heq]
  unfold ShaderCatalog.describe resolveImplementations
  split
  · cases c.registry.lookup c.sourceTypes typeId with
    | none => exact .none
    | some d => exact .some (.refl d)
  · rw [ShaderRegistry.lookup_mapDescriptors hkept]
    cases c.registry.lookup c.sourceTypes typeId with
    | none => exact .none
    | some d => exact .some (p.resolves_resolveDescriptor isFile d)

namespace ShaderCatalog.Extends

variable {c c' : ShaderCatalog} (h : c.Extends c') (net : MaterialNetwork)

include h

/-! ## Conversion -/

/-- A node that converts still does, whatever failed before it, and stays what it was. -/
theorem convertNode {failed : List String} {path : String} {node : MaterialNode} {n : ShadingNode}
    (hn : c.convertNode net failed path node = .ok n) (failed' : List String) :
    ∃ n', c'.convertNode net failed' path node = .ok n' ∧ n'.handle = n.handle ∧
      n'.kind = n.kind := by
  obtain ⟨d, kind, hdescribe, hkind, hfound, rfl⟩ := convertNode_eq_ok_iff.1 hn
  have hrel := h node.typeId
  rw [hdescribe] at hrel
  generalize hdescribe' : c'.describe node.typeId = described at hrel
  cases hrel with
  | some hresolves =>
    obtain ⟨uri, rfl, hkept⟩ := hresolves
    exact ⟨_, convertNode_eq_ok_iff.2 ⟨_, kind, hdescribe', hkind, hkept hfound, rfl⟩, rfl, rfl⟩

theorem converts {node : MaterialNode} (hconverts : c.Converts node) : c'.Converts node := by
  obtain ⟨n, hn⟩ := (@exists_convertNode_iff c ∅ [] "" node).2 hconverts
  obtain ⟨n', hn', -⟩ := h.convertNode ∅ hn []
  exact converts_of_convertNode hn'

/-- Both catalogs convert the nodes in the same order, each against failures of its own. A node that
fails with the extended one fails with the other, and its shading node is missing in both. -/
theorem emitted_sublist (order : List (String × MaterialNode)) :
    ((c.convertAll net order).emitted.map fun n => (n.handle, n.kind)).Sublist
      ((c'.convertAll net order).emitted.map fun n => (n.handle, n.kind)) := by
  induction order using List.reverseRecOn with
  | nil => exact .slnil
  | append_singleton order entry ih =>
    obtain ⟨path, node⟩ := entry
    rcases c.convertAll_concat_cases net order path node with ⟨n, hn, heq⟩ | ⟨e, -, heq⟩ <;>
      rcases c'.convertAll_concat_cases net order path node with ⟨n', hn', heq'⟩ | ⟨e', he', heq'⟩
    · obtain ⟨m, hm, hhandle, hkind⟩ := h.convertNode net hn (c'.convertAll net order).failed
      obtain rfl := Except.ok.inj (hn'.symm.trans hm)
      simp only [heq, heq', List.map_append, List.map_cons, List.map_nil, hhandle, hkind]
      exact ih.append (.refl _)
    · exact absurd (h.converts (converts_of_convertNode hn)) (not_converts_of_convertNode he')
    · simp only [heq, heq', List.map_append]
      exact ih.trans (List.sublist_append_left _ _)
    · rw [heq, heq']
      exact ih

/-- The order of the nodes depends on the network alone, so a result only grows. -/
theorem convert {root : String} {nodes : List ShadingNode}
    (hnodes : c.convert net root = .ok nodes) :
    ∃ nodes', c'.convert net root = .ok nodes' ∧
      (nodes.map fun n => (n.handle, n.kind)).Sublist
        (nodes'.map fun n => (n.handle, n.kind)) := by
  obtain ⟨node, hnode, hconverts, rfl⟩ := exists_root_of_convert hnodes
  obtain ⟨n', hn'⟩ := (@exists_convertNode_iff c' net (c'.convertBelow net root node).failed root
    node).2 (h.converts hconverts)
  have hnodes' : c'.convert net root = .ok ((c'.convertBelow net root node).emitted ++ [n']) := by
    rw [convert_of_node hnode, hn']
    rfl
  obtain ⟨-, -, -, hemitted⟩ := exists_root_of_convert hnodes'
  refine ⟨_, hnodes', ?_⟩
  rw [hemitted]
  exact h.emitted_sublist net _

/-! ## Expansion of vstructs -/

theorem describeNode (path : String) :
    Option.Rel ShaderDescriptor.Resolves (c.describeNode net path) (c'.describeNode net path) := by
  unfold ShaderCatalog.describeNode
  cases net.node? path with
  | none => exact .none
  | some node => exact h node.typeId

/-- Of the two shaders of a connection, only properties are looked at. -/
theorem expandConnection_eq (path : String) (node : MaterialNode) {d d' : ShaderDescriptor}
    (hd : d.Resolves d') (input : String) :
    c'.expandConnection net path node d' input = c.expandConnection net path node d input := by
  obtain ⟨uri, rfl, -⟩ := hd
  funext x connection
  unfold expandConnection
  have hrel := h.describeNode net connection.node
  generalize c.describeNode net connection.node = source at hrel
  generalize c'.describeNode net connection.node = source' at hrel
  cases hrel with
  | none => rfl
  | some hsource =>
    obtain ⟨uri', rfl, -⟩ := hsource
    rfl

theorem expandNode_eq (path : String) (node : MaterialNode) :
    c'.expandNode net path node = c.expandNode net path node := by
  unfold expandNode
  have hrel := h node.typeId
  generalize c.describe node.typeId = described at hrel
  generalize c'.describe node.typeId = described' at hrel
  cases hrel with
  | none => rfl
  | @some d d' hd =>
    have hinput : c'.expandInput net path node d' = c.expandInput net path node d := by
      funext x entry
      unfold expandInput
      rw [h.expandConnection_eq net path node hd]
      obtain ⟨uri, rfl, -⟩ := hd
      rfl
    simp only [hinput]

theorem expandVstructs_eq : c'.expandVstructs net = c.expandVstructs net := by
  have hpath : c'.expandPath = c.expandPath := by
    funext s path
    unfold expandPath
    cases s.1.node? path with
    | none => rfl
    | some node => simp only [h.expandNode_eq]
  rw [ShaderCatalog.expandVstructs, ShaderCatalog.expandVstructs, hpath]

end ShaderCatalog.Extends

/-- With the implementations that a package holds, every conversion still succeeds and returns the
nodes that it returns without them, in their order and among others; the expansion of vstructs does
not change. -/
theorem ShaderPackage.convert_resolveImplementations (p : ShaderPackage) (isFile : String → Bool)
    (c : ShaderCatalog) :
    (∀ net root nodes, c.convert net root = .ok nodes →
      ∃ nodes', ShaderCatalog.convert
          { c with registry := p.resolveImplementations isFile c.registry } net root = .ok nodes' ∧
        (nodes.map fun n => (n.handle, n.kind)).Sublist
          (nodes'.map fun n => (n.handle, n.kind))) ∧
      ∀ net, ShaderCatalog.expandVstructs
          { c with registry := p.resolveImplementations isFile c.registry } net =
        c.expandVstructs net := by
  have hextends := p.extends_resolveImplementations isFile c
  exact ⟨fun net root nodes hnodes => hextends.convert net hnodes, hextends.expandVstructs_eq⟩

/-- A surface, and a pattern whose implementation is still to be found. -/
def sampleLibrary : ShaderCatalog :=
  ⟨.ofList [(sampleShader "Built" "bxdf").withImplementation "Built.oso",
    { sampleShader "Unbuilt" "pattern" with implementationUri := "Unbuilt.oso" }], [],
    fun _ => false⟩

/-- A root fed by a node whose shader is the pattern. -/
def sampleFeed : MaterialNetwork :=
  ⟨.ofList [("R", fedBy "Built" "A"), ("A", .ofType "Unbuilt")], ∅⟩

theorem convert_sampleFeed :
    sampleLibrary.convert sampleFeed "R" = .ok [surfaceAt "R" []] := by
  cbv

theorem convert_sampleFeed_resolved :
    (∃ nodes, sampleLibrary.convert sampleFeed "R" = .ok nodes) ∧
      ∃ nodes', ShaderCatalog.convert
          { sampleLibrary with
            registry := (ShaderPackage.mk ["lib"]).resolveImplementations
              (· == "lib/shaders/Unbuilt.oso") sampleLibrary.registry } sampleFeed "R" =
          .ok nodes' ∧
        [("R", ShadingKind.bxdf)].Sublist (nodes'.map fun n => (n.handle, n.kind)) :=
  ⟨⟨_, convert_sampleFeed⟩,
    (ShaderPackage.convert_resolveImplementations _ _ _).1 _ _ _ convert_sampleFeed⟩

/-- The implementation of the pattern is in the package. -/
example :
    ((ShaderPackage.mk ["lib"]).resolveImplementations (· == "lib/shaders/Unbuilt.oso")
      sampleLibrary.registry).descriptors.map ShaderDescriptor.resolvedUri =
      ["Built.oso", "lib/shaders/Unbuilt.oso"] := by
  decide

end ShadingGraph
