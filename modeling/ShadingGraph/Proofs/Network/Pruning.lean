import ShadingGraph.Proofs.Network.PostOrder

/-!
# Networks without some of their dangling connections

A connection to a path outside of the network leads nowhere: a traversal enters the path in vain.
Two networks that agree on what a root reaches, but for such connections that only the first one
has, are traversed in the same order from that root.

## Main definitions

- `Pruned` — a list without some of its elements, all of a kind
- `MaterialNetwork.PrunesNode` — a node without some of its dangling connections
- `MaterialNetwork.Prunes`, `MaterialNetwork.PrunesBelow` — the same for all nodes, or for those
  that a root reaches

## Main results

- `MaterialNetwork.PrunesBelow.postOrder` — both networks are traversed in step
-/

namespace ShadingGraph

/-! ## Lists without some of their elements -/

/-- The second list is the first one without some of its elements, all of which have the
property. -/
inductive Pruned {α : Type} (p : α → Prop) : List α → List α → Prop where
  | nil : Pruned p [] []
  | keep (a : α) {l l' : List α} (h : Pruned p l l') : Pruned p (a :: l) (a :: l')
  | drop {a : α} {l l' : List α} (ha : p a) (h : Pruned p l l') : Pruned p (a :: l) l'

namespace Pruned

variable {α β : Type} {p : α → Prop} {l l' : List α}

theorem refl (p : α → Prop) (l : List α) : Pruned p l l := by
  induction l with
  | nil => exact .nil
  | cons a l ih => exact .keep a ih

theorem map {q : β → Prop} {f : α → β} (h : Pruned p l l') (hf : ∀ a, p a → q (f a)) :
    Pruned q (l.map f) (l'.map f) := by
  induction h with
  | nil => exact .nil
  | keep a _ ih => exact .keep (f a) ih
  | drop ha _ ih => exact .drop (hf _ ha) ih

theorem filterMap_eq {f f' : α → Option β} (h : Pruned p l l') (hkept : ∀ a ∈ l, f' a = f a)
    (hlost : ∀ a, p a → f a = none) : l'.filterMap f' = l.filterMap f := by
  induction h with
  | nil => rfl
  | keep a _ ih =>
    have hrest := ih fun b hb => hkept b (List.mem_cons_of_mem a hb)
    rw [List.filterMap_cons, List.filterMap_cons, hkept a List.mem_cons_self, hrest]
  | drop ha _ ih =>
    rw [List.filterMap_cons_none (hlost _ ha)]
    exact ih fun b hb => hkept b (List.mem_cons_of_mem _ hb)

end Pruned

namespace MaterialNetwork

/-! ## Networks without some of their dangling connections -/

/-- There is no node at a path. -/
def Dangling (net : MaterialNetwork) (path : String) : Prop := net.node? path = none

/-- A node of a network without some of its connections, all of which are dangling in the
network. -/
structure PrunesNode (net : MaterialNetwork) (node node' : MaterialNode) : Prop where
  typeId : node'.typeId = node.typeId
  parameters : node'.parameters = node.parameters
  connections : Pruned (fun entry => net.Dangling entry.2.node) node.connections node'.connections

theorem PrunesNode.refl (net : MaterialNetwork) (node : MaterialNode) : net.PrunesNode node node :=
  ⟨rfl, rfl, .refl _ _⟩

theorem PrunesNode.dependencies {net : MaterialNetwork} {node node' : MaterialNode}
    (h : net.PrunesNode node node') :
    Pruned net.Dangling node.dependencies node'.dependencies :=
  h.connections.map fun _ hentry => hentry

/-- The second network is the first one without some of its dangling connections. -/
def Prunes (net net' : MaterialNetwork) : Prop :=
  ∀ path, Option.Rel net.PrunesNode (net.node? path) (net'.node? path)

theorem prunes_modifyNode {net : MaterialNetwork} {path : String} {f : MaterialNode → MaterialNode}
    (h : ∀ node, net.node? path = some node → net.PrunesNode node (f node)) :
    net.Prunes (net.modifyNode path f) := by
  intro other
  rw [node?, node?, modifyNode, OrderedMap.find?_modify]
  cases hnode : net.nodes.find? other with
  | none => exact .none
  | some node =>
    refine .some ?_
    split
    · rename_i heq
      subst heq
      exact h node hnode
    · exact .refl net node

/-- At every path that a root reaches, the second network has what the first one has, but for some
dangling connections. -/
def PrunesBelow (net : MaterialNetwork) (root : String) (net' : MaterialNetwork) : Prop :=
  ∀ path, net.Reaches root path → Option.Rel net.PrunesNode (net.node? path) (net'.node? path)

theorem Prunes.below {net net' : MaterialNetwork} (h : net.Prunes net') (root : String) :
    net.PrunesBelow root net' :=
  fun path _ => h path

namespace PrunesBelow

variable {net net' : MaterialNetwork} {root path : String}

theorem node?_eq_none (h : net.PrunesBelow root net') (hreaches : net.Reaches root path)
    (hnode : net.node? path = none) : net'.node? path = none := by
  have hrel := h path hreaches
  rw [hnode] at hrel
  generalize net'.node? path = found at hrel
  cases hrel with
  | none => rfl

theorem exists_node {node : MaterialNode} (h : net.PrunesBelow root net')
    (hreaches : net.Reaches root path) (hnode : net.node? path = some node) :
    ∃ node', net'.node? path = some node' ∧ net.PrunesNode node node' := by
  have hrel := h path hreaches
  rw [hnode] at hrel
  generalize net'.node? path = found at hrel
  cases hrel with
  | some hprunes => exact ⟨_, rfl, hprunes⟩

end PrunesBelow

/-! ## Traversals in step -/

/-- Two lists of visited paths hold the same paths of nodes. -/
def SameNodes (net : MaterialNetwork) (visited visited' : List String) : Prop :=
  ∀ path node, net.node? path = some node → (path ∈ visited ↔ path ∈ visited')

theorem SameNodes.refl (net : MaterialNetwork) (visited : List String) :
    net.SameNodes visited visited :=
  fun _ _ _ => Iff.rfl

/-- An entry of an order and the one that stands for it in the order of the other network. -/
structure PrunesEntry (net : MaterialNetwork) (root : String)
    (entry entry' : String × MaterialNode) : Prop where
  path : entry'.1 = entry.1
  reaches : net.Reaches root entry.1
  node : net.node? entry.1 = some entry.2
  prunes : net.PrunesNode entry.2 entry'.2

section Lists

variable {net net' : MaterialNetwork} {root path : String} {rest visited visited' : List String}

theorem SameNodes.enter (h : net.SameNodes visited visited') (path : String) :
    net.SameNodes (path :: visited) (path :: visited') := by
  intro p node hnode
  rw [List.mem_cons, List.mem_cons, h p node hnode]

theorem SameNodes.enter_dangling (h : net.SameNodes visited visited')
    (hnode : net.node? path = none) : net.SameNodes (path :: visited) visited' := by
  intro p node hp
  have hne : p ≠ path := by
    rintro rfl
    rw [hnode] at hp
    cases hp
  rw [List.mem_cons, or_iff_right hne, h p node hp]

/-- A path outside of both networks makes no difference, whether it was visited before or not. -/
theorem SameNodes.exists_pass (h : net.SameNodes visited visited') (hnode : net.node? path = none)
    (hnode' : net'.node? path = none) :
    ∃ passed, net'.postOrder (path :: rest) visited' = net'.postOrder rest passed ∧
      net.SameNodes visited passed := by
  by_cases hseen : path ∈ visited'
  · exact ⟨visited', postOrder_cons_of_visited hseen, h⟩
  · refine ⟨path :: visited', postOrder_cons_of_missing hseen hnode', fun p node hp => ?_⟩
    rw [h p node hp, List.mem_cons, or_iff_right]
    rintro rfl
    rw [hnode] at hp
    cases hp

end Lists

/-- Both networks are traversed in step: the orders have the same paths, with nodes that differ by
dangling connections, and the same nodes have been visited at the end. -/
theorem PrunesBelow.postOrder {net net' : MaterialNetwork} {root : String}
    (h : net.PrunesBelow root net') {paths paths' visited visited' : List String}
    (hreaches : ∀ p ∈ paths, net.Reaches root p) (hpaths : Pruned net.Dangling paths paths')
    (hvisited : net.SameNodes visited visited') :
    List.Forall₂ (net.PrunesEntry root) (net.postOrder paths visited).result
        (net'.postOrder paths' visited').result ∧
      net.SameNodes (net.postOrder paths visited).visited
        (net'.postOrder paths' visited').visited := by
  -- The induction follows the first network, which has all of the connections. A dangling path may
  -- have been visited on one side only, so that `SameNodes` says nothing about it.
  induction paths, visited using postOrder_induction net generalizing paths' visited' with
  | nil visited =>
    cases hpaths with
    | nil =>
      rw [postOrder_nil, postOrder_nil]
      exact ⟨.nil, hvisited⟩
  | seen path rest visited hseen ih =>
    obtain ⟨hpath, hrest⟩ := List.forall_mem_cons.1 hreaches
    rw [postOrder_cons_of_visited hseen]
    cases hpaths with
    | drop _ htail => exact ih hrest htail hvisited
    | keep _ htail =>
      cases hnode : net.node? path with
      | none =>
        obtain ⟨passed, heq, hpassed⟩ :=
          hvisited.exists_pass hnode (h.node?_eq_none hpath hnode)
        rw [heq]
        exact ih hrest htail hpassed
      | some node =>
        rw [postOrder_cons_of_visited ((hvisited path node hnode).1 hseen)]
        exact ih hrest htail hvisited
  | missing path rest visited hnew hnode ih =>
    obtain ⟨hpath, hrest⟩ := List.forall_mem_cons.1 hreaches
    rw [postOrder_cons_of_missing hnew hnode]
    have hentered := hvisited.enter_dangling hnode
    cases hpaths with
    | drop _ htail => exact ih hrest htail hentered
    | keep _ htail =>
      obtain ⟨passed, heq, hpassed⟩ := hentered.exists_pass hnode (h.node?_eq_none hpath hnode)
      rw [heq]
      exact ih hrest htail hpassed
  | node path node rest visited hnew hnode ihInner ihRest =>
    obtain ⟨hpath, hrest⟩ := List.forall_mem_cons.1 hreaches
    cases hpaths with
    | drop hdangling _ =>
      rw [hdangling] at hnode
      cases hnode
    | keep _ htail =>
      obtain ⟨node', hnode', hprunes⟩ := h.exists_node hpath hnode
      have hnew' : path ∉ visited' := fun hseen => hnew ((hvisited path node hnode).2 hseen)
      have hbelow : ∀ p ∈ node.dependencies, net.Reaches root p := fun p hp =>
        hpath.tail ⟨node, hnode, hp⟩
      obtain ⟨hinner, hafter⟩ := ihInner hbelow hprunes.dependencies (hvisited.enter path)
      obtain ⟨houter, hend⟩ := ihRest hrest htail hafter
      rw [postOrder_cons_of_node hnew hnode, postOrder_cons_of_node hnew' hnode']
      exact ⟨List.rel_append hinner (.cons ⟨rfl, hpath, hnode, hprunes⟩ houter), hend⟩

end MaterialNetwork

end ShadingGraph
