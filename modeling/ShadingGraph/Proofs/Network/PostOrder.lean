import Mathlib.Data.List.Nodup
import Mathlib.Logic.Relation
import ShadingGraph.Proofs.Network.Traversal

/-!
# The post-order of a material network

Whatever a traversal makes of the nodes, it leaves them in the same order, in which a node stands
behind all that it depends on, cycles apart. Here is what that order has to do with the graph.

## Main definitions

- `MaterialNetwork.DependsOn`, `MaterialNetwork.Reaches` — the edges and the paths of the graph
- `MaterialNetwork.postOrder` — the nodes in the order in which traversals leave them
- `MaterialNetwork.orderFrom`, `MaterialNetwork.Precedes` — the order of a root

## Main results

- `MaterialNetwork.traverse_eq_foldl` — a traversal runs its action along the post-order
- `MaterialNetwork.mem_orderFrom_iff` — the nodes of the order are those that the root reaches
- `MaterialNetwork.precedes_or_reaches` — what a node depends on stands in front of it, or reaches
  the node in turn
-/

namespace ShadingGraph

namespace MaterialNetwork

/-- One path depends on another if a node is there that the other one feeds. -/
def DependsOn (net : MaterialNetwork) (path other : String) : Prop :=
  ∃ node, net.node? path = some node ∧ other ∈ node.dependencies

/-- One path depends on another directly, through other nodes, or by being the same. -/
def Reaches (net : MaterialNetwork) : String → String → Prop :=
  Relation.ReflTransGen net.DependsOn

/-- A node depends on what feeds one of its connections. -/
theorem dependsOn_of_connection {net : MaterialNetwork} {path : String} {node : MaterialNode}
    {entry : String × Connection} (hnode : net.node? path = some node)
    (hentry : entry ∈ node.connections) : net.DependsOn path entry.2.node :=
  ⟨node, hnode, List.mem_map.2 ⟨entry, hentry, rfl⟩⟩

/-! ## Every traversal runs along the same order -/

def collect (order : List (String × MaterialNode)) (entry : String × MaterialNode) :
    List (String × MaterialNode) :=
  order ++ [entry]

/-- The traversal of a list of paths that only notes the nodes in the order in which it leaves
them. -/
def postOrder (net : MaterialNetwork) (paths visited : List String) :
    Traversal (List (String × MaterialNode)) :=
  net.traverse collect paths ⟨visited, []⟩

variable {σ : Type} {net : MaterialNetwork}

theorem foldl_collect (order entries : List (String × MaterialNode)) :
    entries.foldl collect order = order ++ entries := by
  induction entries generalizing order with
  | nil => simp
  | cons entry rest ih => simp [ih, collect]

/-- A traversal visits what the one that collects visits, and its action is run on the entries that
this one adds, whatever it has collected before. -/
private theorem exists_collected (net : MaterialNetwork) (act : σ → String × MaterialNode → σ)
    (paths : List String) (t : Traversal σ) :
    ∃ added, (∀ order, net.traverse collect paths ⟨t.visited, order⟩ =
        ⟨(net.traverse act paths t).visited, order ++ added⟩) ∧
      (net.traverse act paths t).result = added.foldl act t.result := by
  -- The order collected before is left open, since inside of a node it is not that of the node.
  induction paths, t using traverse_induction net act with
  | nil t => exact ⟨[], by simp, by simp⟩
  | seen path rest t hseen ih =>
    obtain ⟨added, hcollect, hresult⟩ := ih
    refine ⟨added, fun order => ?_, ?_⟩
    · rw [traverse_cons_of_visited (by exact hseen), traverse_cons_of_visited hseen, hcollect]
    · rw [traverse_cons_of_visited hseen, hresult]
  | missing path rest t hnew hnode ih =>
    obtain ⟨added, hcollect, hresult⟩ := ih
    refine ⟨added, fun order => ?_, ?_⟩
    · rw [traverse_cons_of_missing (by exact hnew) hnode, traverse_cons_of_missing hnew hnode]
      exact hcollect order
    · rw [traverse_cons_of_missing hnew hnode, hresult]
      rfl
  | node path node rest t hnew hnode ihInner ihRest =>
    obtain ⟨inner, hcollectInner, hresultInner⟩ := ihInner
    obtain ⟨after, hcollectRest, hresultRest⟩ := ihRest
    refine ⟨inner ++ (path, node) :: after, fun order => ?_, ?_⟩
    · have hinner :
          net.traverse collect node.dependencies (Traversal.enter ⟨t.visited, order⟩ path) =
          ⟨(net.traverse act node.dependencies (t.enter path)).visited, order ++ inner⟩ :=
        hcollectInner order
      rw [traverse_cons_of_node (by exact hnew) hnode, traverse_cons_of_node hnew hnode, hinner]
      simpa [Traversal.leave, collect] using hcollectRest (order ++ inner ++ [(path, node)])
    · rw [traverse_cons_of_node hnew hnode, hresultRest, List.foldl_append, List.foldl_cons,
        Traversal.leave, hresultInner]
      rfl

/-- A traversal runs its action along the post-order. -/
theorem traverse_eq_foldl (act : σ → String × MaterialNode → σ) (paths : List String)
    (t : Traversal σ) :
    net.traverse act paths t =
      ⟨(net.postOrder paths t.visited).visited,
        (net.postOrder paths t.visited).result.foldl act t.result⟩ := by
  obtain ⟨added, hcollect, hresult⟩ := exists_collected net act paths t
  rw [postOrder, hcollect, List.nil_append, ← hresult]

/-! ## The recursion for the order -/

section Recursion

variable {path : String} {rest visited : List String}

@[simp] theorem postOrder_nil : net.postOrder [] visited = ⟨visited, []⟩ := by
  rw [postOrder, traverse_nil]

theorem postOrder_cons_of_visited (hseen : path ∈ visited) :
    net.postOrder (path :: rest) visited = net.postOrder rest visited := by
  rw [postOrder, traverse_cons_of_visited (by exact hseen), postOrder]

theorem postOrder_cons_of_missing (hnew : path ∉ visited) (hnode : net.node? path = none) :
    net.postOrder (path :: rest) visited = net.postOrder rest (path :: visited) := by
  rw [postOrder, traverse_cons_of_missing (by exact hnew) hnode, postOrder]
  rfl

theorem postOrder_cons_of_node {node : MaterialNode} (hnew : path ∉ visited)
    (hnode : net.node? path = some node) :
    net.postOrder (path :: rest) visited =
      ⟨(net.postOrder rest
          (net.postOrder node.dependencies (path :: visited)).visited).visited,
        (net.postOrder node.dependencies (path :: visited)).result ++
          (path, node) :: (net.postOrder rest
            (net.postOrder node.dependencies (path :: visited)).visited).result⟩ := by
  rw [postOrder, traverse_cons_of_node (by exact hnew) hnode, traverse_eq_foldl, foldl_collect]
  simp only [Traversal.leave, collect, List.append_assoc, List.singleton_append]
  rfl

theorem postOrder_cons :
    net.postOrder (path :: rest) visited =
      ⟨(net.postOrder rest (net.postOrder [path] visited).visited).visited,
        (net.postOrder [path] visited).result ++
          (net.postOrder rest (net.postOrder [path] visited).visited).result⟩ := by
  rw [postOrder, traverse_cons, traverse_eq_foldl, foldl_collect]
  rfl

end Recursion

/-- Induction along the recursion for the order. -/
@[elab_as_elim]
theorem postOrder_induction (net : MaterialNetwork) {motive : List String → List String → Prop}
    (nil : ∀ visited, motive [] visited)
    (seen : ∀ path rest visited, path ∈ visited → motive rest visited →
      motive (path :: rest) visited)
    (missing : ∀ path rest visited, path ∉ visited → net.node? path = none →
      motive rest (path :: visited) → motive (path :: rest) visited)
    (node : ∀ path node rest visited, path ∉ visited → net.node? path = some node →
      motive node.dependencies (path :: visited) →
      motive rest (net.postOrder node.dependencies (path :: visited)).visited →
      motive (path :: rest) visited)
    (paths visited : List String) : motive paths visited := by
  suffices h : ∀ t : Traversal (List (String × MaterialNode)), motive paths t.visited from
    h ⟨visited, []⟩
  intro t
  induction paths, t using traverse_induction net collect with
  | nil t => exact nil t.visited
  | seen path rest t hseen ih => exact seen path rest t.visited hseen ih
  | missing path rest t hnew hnode ih => exact missing path rest t.visited hnew hnode ih
  | node path n rest t hnew hnode ihInner ihRest =>
    rw [traverse_eq_foldl] at ihRest
    exact node path n rest t.visited hnew hnode ihInner ihRest

/-! ## What an order holds -/

section Entries

variable {paths visited : List String} {path : String} {entry : String × MaterialNode}

theorem subset_postOrder_visited (net : MaterialNetwork) (paths visited : List String) :
    visited ⊆ (net.postOrder paths visited).visited :=
  (net.traverseGrowing collect paths ⟨visited, []⟩).2

theorem paths_subset_postOrder_visited (net : MaterialNetwork) (paths visited : List String) :
    paths ⊆ (net.postOrder paths visited).visited := by
  induction paths, visited using postOrder_induction net with
  | nil visited => exact List.nil_subset _
  | seen path rest visited hseen ih =>
    rw [postOrder_cons_of_visited hseen]
    exact List.cons_subset.2 ⟨subset_postOrder_visited _ _ _ hseen, ih⟩
  | missing path rest visited hnew hnode ih =>
    rw [postOrder_cons_of_missing hnew hnode]
    exact List.cons_subset.2 ⟨subset_postOrder_visited _ _ _ List.mem_cons_self, ih⟩
  | node path node rest visited hnew hnode ihInner ihRest =>
    rw [postOrder_cons_of_node hnew hnode]
    refine List.cons_subset.2 ⟨?_, ihRest⟩
    exact subset_postOrder_visited _ _ _ (subset_postOrder_visited _ _ _ List.mem_cons_self)

theorem of_mem_postOrder (h : entry ∈ (net.postOrder paths visited).result) :
    net.node? entry.1 = some entry.2 ∧ entry.1 ∉ visited ∧
      entry.1 ∈ (net.postOrder paths visited).visited := by
  induction paths, visited using postOrder_induction net with
  | nil visited => simp at h
  | seen path rest visited hseen ih =>
    rw [postOrder_cons_of_visited hseen] at h ⊢
    exact ih h
  | missing path rest visited hnew hnode ih =>
    rw [postOrder_cons_of_missing hnew hnode] at h ⊢
    obtain ⟨hentry, hfresh, hvisited⟩ := ih h
    exact ⟨hentry, fun hold => hfresh (List.mem_cons_of_mem _ hold), hvisited⟩
  | node path node rest visited hnew hnode ihInner ihRest =>
    rw [postOrder_cons_of_node hnew hnode] at h ⊢
    have hgrows := subset_postOrder_visited net node.dependencies (path :: visited)
    rcases List.mem_append.1 h with hinner | hlast
    · obtain ⟨hentry, hfresh, hvisited⟩ := ihInner hinner
      exact ⟨hentry, fun hold => hfresh (List.mem_cons_of_mem _ hold),
        subset_postOrder_visited _ _ _ hvisited⟩
    · rcases List.mem_cons.1 hlast with rfl | hrest
      · exact ⟨hnode, hnew, subset_postOrder_visited _ _ _ (hgrows List.mem_cons_self)⟩
      · obtain ⟨hentry, hfresh, hvisited⟩ := ihRest hrest
        exact ⟨hentry, fun hold => hfresh (hgrows (List.mem_cons_of_mem _ hold)), hvisited⟩

theorem mem_postOrder_of_visited {node : MaterialNode} (hnode : net.node? path = some node)
    (hnew : path ∉ visited) (h : path ∈ (net.postOrder paths visited).visited) :
    (path, node) ∈ (net.postOrder paths visited).result := by
  induction paths, visited using postOrder_induction net with
  | nil visited => exact absurd (by simpa using h) hnew
  | seen path' rest visited hseen ih =>
    rw [postOrder_cons_of_visited hseen] at h ⊢
    exact ih hnew h
  | missing path' rest visited hnew' hnode' ih =>
    rw [postOrder_cons_of_missing hnew' hnode'] at h ⊢
    refine ih ?_ h
    rintro (_ | ⟨_, hold⟩)
    · rw [hnode] at hnode'
      cases hnode'
    · exact hnew hold
  | node path' node' rest visited hnew' hnode' ihInner ihRest =>
    rw [postOrder_cons_of_node hnew' hnode'] at h ⊢
    by_cases heq : path = path'
    · subst heq
      rw [hnode, Option.some.injEq] at hnode'
      simp [hnode']
    · by_cases hinner : path ∈ (net.postOrder node'.dependencies (path' :: visited)).visited
      · exact List.mem_append_left _ (ihInner (by simp [heq, hnew]) hinner)
      · exact List.mem_append_right _ (List.mem_cons_of_mem _ (ihRest hinner h))

theorem nodup_postOrder (net : MaterialNetwork) (paths visited : List String) :
    ((net.postOrder paths visited).result.map Prod.fst).Nodup := by
  induction paths, visited using postOrder_induction net with
  | nil visited => simp
  | seen path rest visited hseen ih => rwa [postOrder_cons_of_visited hseen]
  | missing path rest visited hnew hnode ih => rwa [postOrder_cons_of_missing hnew hnode]
  | node path node rest visited hnew hnode ihInner ihRest =>
    rw [postOrder_cons_of_node hnew hnode, List.map_append, List.map_cons]
    have hgrows := subset_postOrder_visited net node.dependencies (path :: visited)
    refine List.nodup_append.2 ⟨ihInner, List.nodup_cons.2 ⟨?_, ihRest⟩, ?_⟩
    · intro hagain
      obtain ⟨entry, hentry, heq⟩ := List.mem_map.1 hagain
      exact (of_mem_postOrder hentry).2.1 (heq ▸ hgrows List.mem_cons_self)
    · intro p hp q hq heq
      subst heq
      obtain ⟨entry, hentry, rfl⟩ := List.mem_map.1 hp
      obtain ⟨-, hfresh, hvisited⟩ := of_mem_postOrder hentry
      rcases List.mem_cons.1 hq with hpath | hrest
      · exact hfresh (hpath ▸ List.mem_cons_self)
      · obtain ⟨later, hlater, heq⟩ := List.mem_map.1 hrest
        exact (of_mem_postOrder hlater).2.1 (heq ▸ hvisited)

theorem reaches_of_visited (h : path ∈ (net.postOrder paths visited).visited) :
    path ∈ visited ∨ ∃ start ∈ paths, net.Reaches start path := by
  induction paths, visited using postOrder_induction net with
  | nil visited => exact Or.inl (by simpa using h)
  | seen path' rest visited hseen ih =>
    rw [postOrder_cons_of_visited hseen] at h
    exact (ih h).imp_right fun ⟨start, hstart, hreach⟩ =>
      ⟨start, List.mem_cons_of_mem _ hstart, hreach⟩
  | missing path' rest visited hnew hnode ih =>
    rw [postOrder_cons_of_missing hnew hnode] at h
    rcases ih h with hold | ⟨start, hstart, hreach⟩
    · rcases List.mem_cons.1 hold with rfl | hold
      · exact Or.inr ⟨path, List.mem_cons_self, .refl⟩
      · exact Or.inl hold
    · exact Or.inr ⟨start, List.mem_cons_of_mem _ hstart, hreach⟩
  | node path' node rest visited hnew hnode ihInner ihRest =>
    rw [postOrder_cons_of_node hnew hnode] at h
    rcases ihRest h with hinner | ⟨start, hstart, hreach⟩
    · rcases ihInner hinner with hold | ⟨start, hstart, hreach⟩
      · rcases List.mem_cons.1 hold with rfl | hold
        · exact Or.inr ⟨path, List.mem_cons_self, .refl⟩
        · exact Or.inl hold
      · exact Or.inr ⟨path', List.mem_cons_self, .head ⟨node, hnode, hstart⟩ hreach⟩
    · exact Or.inr ⟨start, List.mem_cons_of_mem _ hstart, hreach⟩

theorem dependencies_subset_visited (h : entry ∈ (net.postOrder paths visited).result) :
    entry.2.dependencies ⊆ (net.postOrder paths visited).visited := by
  induction paths, visited using postOrder_induction net with
  | nil visited => simp at h
  | seen path rest visited hseen ih =>
    rw [postOrder_cons_of_visited hseen] at h ⊢
    exact ih h
  | missing path rest visited hnew hnode ih =>
    rw [postOrder_cons_of_missing hnew hnode] at h ⊢
    exact ih h
  | node path node rest visited hnew hnode ihInner ihRest =>
    rw [postOrder_cons_of_node hnew hnode] at h ⊢
    rcases List.mem_append.1 h with hinner | hlast
    · exact List.Subset.trans (ihInner hinner) (subset_postOrder_visited _ _ _)
    · rcases List.mem_cons.1 hlast with rfl | hrest
      · exact List.Subset.trans (paths_subset_postOrder_visited _ _ _)
          (subset_postOrder_visited _ _ _)
      · exact ihRest hrest

end Entries

/-! ## Where a node stands -/

/-- The paths visited before a traversal are those of nodes that stand in front already, or of nodes
that the traversal is still inside of; the latter reach everything that is to be visited. -/
def Settled (net : MaterialNetwork) (front visited paths : List String) : Prop :=
  ∀ p ∈ visited, ∀ node, net.node? p = some node →
    p ∈ front ∨ ∀ start ∈ paths, net.Reaches p start

namespace Settled

variable {front visited rest : List String} {path : String}

theorem tail (h : net.Settled front visited (path :: rest)) : net.Settled front visited rest :=
  fun p hp node hnode => (h p hp node hnode).imp_right fun hreach start hstart =>
    hreach start (List.mem_cons_of_mem _ hstart)

theorem missing (h : net.Settled front visited (path :: rest)) (hnode : net.node? path = none) :
    net.Settled front (path :: visited) rest := by
  intro p hp node hp'
  rcases List.mem_cons.1 hp with rfl | hp
  · rw [hnode] at hp'
    cases hp'
  · exact h.tail p hp node hp'

/-- Inside of a node, what it depends on is to be visited. -/
theorem inside {node : MaterialNode} (h : net.Settled front visited (path :: rest))
    (hnode : net.node? path = some node) :
    net.Settled front (path :: visited) node.dependencies := by
  have hedge : ∀ start ∈ node.dependencies, net.Reaches path start := fun start hstart =>
    .single ⟨node, hnode, hstart⟩
  intro p hp n hn
  rcases List.mem_cons.1 hp with rfl | hp
  · exact Or.inr hedge
  · refine (h p hp n hn).imp_right fun hreach start hstart => ?_
    exact (hreach path List.mem_cons_self).trans (hedge start hstart)

/-- Once a node has been left, all that was visited inside of it stands in front, and so does the
node. -/
theorem behind {node : MaterialNode} (h : net.Settled front visited (path :: rest)) :
    net.Settled
      (front ++ ((net.postOrder node.dependencies (path :: visited)).result.map Prod.fst ++ [path]))
      (net.postOrder node.dependencies (path :: visited)).visited rest := by
  intro p hp n hn
  by_cases hpath : p = path
  · simp [hpath]
  by_cases hseen : p ∈ visited
  · exact (h.tail p hseen n hn).imp_left fun hfront => List.mem_append_left _ hfront
  · have hentry := mem_postOrder_of_visited hn (by simp [hpath, hseen]) hp
    refine Or.inl (List.mem_append_right _ (List.mem_append_left _ ?_))
    exact List.mem_map_of_mem hentry

/-- When a node is left, what it depends on stands in front or reaches the node. -/
theorem dependency {node n : MaterialNode} {other : String}
    (h : net.Settled front visited (path :: rest)) (hdep : other ∈ node.dependencies)
    (hother : net.node? other = some n) :
    other ∈ front ++ (net.postOrder node.dependencies (path :: visited)).result.map Prod.fst ∨
      net.Reaches other path := by
  by_cases hpath : other = path
  · exact Or.inr (hpath ▸ .refl)
  by_cases hseen : other ∈ visited
  · rcases h other hseen n hother with hfront | hreach
    · exact Or.inl (List.mem_append_left _ hfront)
    · exact Or.inr (hreach path List.mem_cons_self)
  · have hvisited := paths_subset_postOrder_visited net _ (path :: visited) hdep
    have hentry := mem_postOrder_of_visited hother (by simp [hpath, hseen]) hvisited
    exact Or.inl (List.mem_append_right _ (List.mem_map_of_mem hentry))

end Settled

/-- A node stands behind what it depends on, unless that reaches the node in turn. -/
theorem pair_sublist_postOrder {paths visited front : List String} {entry : String × MaterialNode}
    {other : String} {node : MaterialNode} (hold : net.Settled front visited paths)
    (h : entry ∈ (net.postOrder paths visited).result) (hdep : other ∈ entry.2.dependencies)
    (hother : net.node? other = some node) :
    [other, entry.1].Sublist (front ++ (net.postOrder paths visited).result.map Prod.fst) ∨
      net.Reaches other entry.1 := by
  -- Each part of the recursion has its own front: behind a node, all that was visited inside of it
  -- has joined.
  induction paths, visited using postOrder_induction net generalizing front with
  | nil visited => simp at h
  | seen path rest visited hseen ih =>
    rw [postOrder_cons_of_visited hseen] at h ⊢
    exact ih hold.tail h
  | missing path rest visited hnew hnode ih =>
    rw [postOrder_cons_of_missing hnew hnode] at h ⊢
    exact ih (hold.missing hnode) h
  | node path n rest visited hnew hnode ihInner ihRest =>
    rw [postOrder_cons_of_node hnew hnode] at h ⊢
    rw [List.map_append, List.map_cons, ← List.append_assoc]
    rcases List.mem_append.1 h with hinner | hlast
    · refine (ihInner (hold.inside hnode) hinner).imp_left fun hpair => ?_
      exact hpair.trans (List.sublist_append_left _ _)
    rcases List.mem_cons.1 hlast with rfl | hrest
    · refine (hold.dependency hdep hother).imp_left fun hfront => ?_
      exact (List.singleton_sublist.2 hfront).append (.cons_cons _ (List.nil_sublist _))
    · simpa using ihRest hold.behind hrest

/-! ## The order of a root -/

/-- The nodes that a root reaches, in post-order. -/
def orderFrom (net : MaterialNetwork) (root : String) : List (String × MaterialNode) :=
  (net.postOrder [root] []).result

section Root

variable {root path : String} {node : MaterialNode}

theorem orderFrom_of_node (h : net.node? root = some node) :
    net.orderFrom root = (net.postOrder node.dependencies [root]).result ++ [(root, node)] := by
  rw [orderFrom, postOrder_cons_of_node List.not_mem_nil h, postOrder_nil]

theorem nodup_orderFrom (net : MaterialNetwork) (root : String) :
    ((net.orderFrom root).map Prod.fst).Nodup :=
  nodup_postOrder net [root] []

/-- A path divides the order in one way only. -/
theorem orderFrom_split_unique {n : MaterialNode}
    {front back front' back' : List (String × MaterialNode)}
    (h : net.orderFrom root = front ++ (path, node) :: back)
    (h' : net.orderFrom root = front' ++ (path, n) :: back') :
    front = front' ∧ node = n ∧ back = back' := by
  have hnodup := net.nodup_orderFrom root
  rw [h, List.map_append, List.map_cons, List.nodup_middle, List.nodup_cons, List.mem_append]
    at hnodup
  have hfront : (path, n) ∉ front := fun hn =>
    hnodup.1 (Or.inl (List.mem_map.2 ⟨_, hn, rfl⟩))
  have hback : (path, n) ∉ back := fun hn =>
    hnodup.1 (Or.inr (List.mem_map.2 ⟨_, hn, rfl⟩))
  obtain ⟨rfl, heq, rfl⟩ := (List.append_cons_inj_of_notMem hfront hback).1 (h.symm.trans h')
  exact ⟨rfl, congrArg Prod.snd heq, rfl⟩

/-- The order of a root visits what the root reaches. -/
theorem mem_visited_iff_reaches :
    path ∈ (net.postOrder [root] []).visited ↔ net.Reaches root path := by
  constructor
  · intro h
    obtain ⟨start, hstart, hreach⟩ := (reaches_of_visited h).resolve_left List.not_mem_nil
    rwa [List.mem_singleton.1 hstart] at hreach
  · intro h
    induction h with
    | refl => exact paths_subset_postOrder_visited _ _ _ List.mem_cons_self
    | tail _ hedge ih =>
      obtain ⟨between, hbetween, hdep⟩ := hedge
      exact dependencies_subset_visited
        (mem_postOrder_of_visited hbetween List.not_mem_nil ih) hdep

instance (net : MaterialNetwork) (root path : String) : Decidable (net.Reaches root path) :=
  decidable_of_iff _ mem_visited_iff_reaches

theorem mem_orderFrom_iff :
    (path, node) ∈ net.orderFrom root ↔ net.Reaches root path ∧ net.node? path = some node := by
  constructor
  · intro h
    obtain ⟨hnode, -, hvisited⟩ := of_mem_postOrder h
    exact ⟨mem_visited_iff_reaches.1 hvisited, hnode⟩
  · rintro ⟨hreach, hnode⟩
    exact mem_postOrder_of_visited hnode List.not_mem_nil (mem_visited_iff_reaches.2 hreach)

theorem reaches_of_split {front back : List (String × MaterialNode)}
    (h : net.orderFrom root = front ++ (path, node) :: back) :
    net.Reaches root path ∧ net.node? path = some node :=
  mem_orderFrom_iff.1 (by simp [h])

/-- One path stands in front of another in the order of a root. -/
def Precedes (net : MaterialNetwork) (root other path : String) : Prop :=
  [other, path].Sublist ((net.orderFrom root).map Prod.fst)

/-- In the order of a root, what a node depends on stands in front of the node, or reaches it in
turn. -/
theorem precedes_or_reaches {other : String} {n : MaterialNode} (hreaches : net.Reaches root path)
    (hdep : net.DependsOn path other) (hother : net.node? other = some n) :
    net.Precedes root other path ∨ net.Reaches other path := by
  obtain ⟨node, hnode, hdep⟩ := hdep
  have hnone : net.Settled [] [] [root] := fun p hp => absurd hp List.not_mem_nil
  exact pair_sublist_postOrder hnone (mem_orderFrom_iff.2 ⟨hreaches, hnode⟩) hdep hother

/-- What stands in front of a path is the part of the order before it. -/
theorem precedes_iff_of_split {front back : List (String × MaterialNode)} {other : String}
    (h : net.orderFrom root = front ++ (path, node) :: back) :
    net.Precedes root other path ↔ other ∈ front.map Prod.fst := by
  have hnodup := net.nodup_orderFrom root
  rw [Precedes, h, List.map_append, List.map_cons]
  rw [h, List.map_append, List.map_cons, List.nodup_middle, List.nodup_cons, List.mem_append]
    at hnodup
  constructor
  · intro hpair
    obtain ⟨l₁, l₂, hsplit, hl₁, hl₂⟩ := List.sublist_append_iff.1 hpair
    rcases List.cons_eq_append_iff.1 hsplit with ⟨rfl, rfl⟩ | ⟨l₁', rfl, -⟩
    · -- With nothing of the pair in front, the path would stand behind itself.
      have hagain : [path].Sublist (back.map Prod.fst) := by
        cases hl₂ with
        | cons _ hl₂ => exact (List.sublist_cons_self _ _).trans hl₂
        | cons_cons _ hl₂ => exact hl₂
      exact absurd (Or.inr (List.singleton_sublist.1 hagain)) hnodup.1
    · exact hl₁.subset List.mem_cons_self
  · intro hfront
    exact (List.singleton_sublist.2 hfront).append (.cons_cons _ (List.nil_sublist _))

theorem exists_mem_front_iff {front back : List (String × MaterialNode)} {other : String}
    {n : MaterialNode} (h : net.orderFrom root = front ++ (path, node) :: back)
    (hother : net.node? other = some n) {P : MaterialNode → Prop} :
    (∃ m, (other, m) ∈ front ∧ P m) ↔ net.Precedes root other path ∧ P n := by
  have hsame : ∀ m, (other, m) ∈ front → m = n := by
    intro m hm
    have hentry : (other, m) ∈ net.orderFrom root := by simp [h, hm]
    exact Option.some.inj ((mem_orderFrom_iff.1 hentry).2.symm.trans hother)
  rw [precedes_iff_of_split h]
  constructor
  · rintro ⟨m, hm, hP⟩
    obtain rfl := hsame m hm
    exact ⟨List.mem_map.2 ⟨_, hm, rfl⟩, hP⟩
  · rintro ⟨hmem, hP⟩
    obtain ⟨⟨_, m⟩, hm, rfl⟩ := List.mem_map.1 hmem
    obtain rfl := hsame m hm
    exact ⟨m, hm, hP⟩

end Root

end MaterialNetwork

end ShadingGraph
