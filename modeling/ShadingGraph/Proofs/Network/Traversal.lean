import Mathlib.Data.Finset.Card
import ShadingGraph.Network.Basic

/-!
# Depth-first traversals of material networks

A traversal visits paths one after another. It passes over a path that it has entered before and
over a path that is not in the network; at any other path it visits what the node there depends on,
in the order of the connections, and then leaves the node. What is made of a node on leaving it is
up to an action.

## Main definitions

- `Traversal` — the paths entered so far, and what the action has made of the nodes left so far
- `MaterialNetwork.traverse` — the traversal of a list of paths with an action

## Main results

- `MaterialNetwork.traverse_singleton` — the recursion, for one path
- `MaterialNetwork.traverse_induction` — induction along the recursion
-/

namespace ShadingGraph

/-- How far a traversal has come. -/
structure Traversal (σ : Type) where
  /-- The paths entered so far. -/
  visited : List String
  /-- What the action has made of the nodes left so far. -/
  result : σ

namespace Traversal

variable {σ : Type}

def enter (t : Traversal σ) (path : String) : Traversal σ :=
  { t with visited := path :: t.visited }

def leave (t : Traversal σ) (act : σ → String × MaterialNode → σ) (entry : String × MaterialNode) :
    Traversal σ :=
  { t with result := act t.result entry }

end Traversal

namespace MaterialNetwork

variable {σ : Type}

/-! ## The recursion ends

Each level of the recursion enters a path of the network that has not been entered before. -/

def unvisited (net : MaterialNetwork) (visited : List String) : Nat :=
  (net.paths.toFinset \ visited.toFinset).card

theorem mem_paths_of_node {net : MaterialNetwork} {path : String} {node : MaterialNode}
    (h : net.node? path = some node) : path ∈ net.paths := by
  by_contra hno
  have hnone : net.node? path = none := OrderedMap.find?_eq_none_iff.2 hno
  rw [h] at hnone
  cases hnone

theorem unvisited_anti (net : MaterialNetwork) {visited visited' : List String}
    (h : visited ⊆ visited') : net.unvisited visited' ≤ net.unvisited visited := by
  apply Finset.card_le_card
  apply Finset.sdiff_subset_sdiff (Finset.Subset.refl _)
  intro p hp
  exact List.mem_toFinset.2 (h (List.mem_toFinset.1 hp))

theorem unvisited_lt {net : MaterialNetwork} {visited : List String} {path : String}
    {node : MaterialNode} (hnode : net.node? path = some node) (hnew : path ∉ visited) :
    net.unvisited (path :: visited) < net.unvisited visited := by
  have hmem : path ∈ net.paths.toFinset \ visited.toFinset := by
    simpa using And.intro (mem_paths_of_node hnode) hnew
  apply Finset.card_lt_card
  refine Finset.ssubset_iff_subset_ne.2 ⟨?_, ?_⟩
  · apply Finset.sdiff_subset_sdiff (Finset.Subset.refl _)
    intro p hp
    exact List.mem_toFinset.2 (List.mem_cons_of_mem _ (List.mem_toFinset.1 hp))
  · intro heq
    rw [← heq] at hmem
    simp at hmem

private theorem lex_of_le_of_lt {m m' n n' : Nat} (hm : m ≤ m') (hn : n < n') :
    Prod.Lex (· < ·) (· < ·) (m, n) (m', n') := by
  rcases Nat.lt_or_eq_of_le hm with hlt | rfl
  · exact Prod.Lex.left _ _ hlt
  · exact Prod.Lex.right _ hn

/-- The traversal of a list of paths, together with the fact that no visit is forgotten, which the
recursion needs to end. -/
def traverseGrowing (net : MaterialNetwork) (act : σ → String × MaterialNode → σ)
    (paths : List String) (t : Traversal σ) : { t' : Traversal σ // t.visited ⊆ t'.visited } :=
  match paths with
  | [] => ⟨t, List.Subset.refl _⟩
  | path :: rest =>
    if _hseen : path ∈ t.visited then net.traverseGrowing act rest t
    else
      match _hnode : net.node? path with
      | none =>
        let after := net.traverseGrowing act rest (t.enter path)
        ⟨after.1, fun _ hp => after.2 (List.mem_cons_of_mem path hp)⟩
      | some node =>
        let inner := net.traverseGrowing act node.dependencies (t.enter path)
        let after := net.traverseGrowing act rest (inner.1.leave act (path, node))
        ⟨after.1, fun _ hp => after.2 (inner.2 (List.mem_cons_of_mem path hp))⟩
termination_by (net.unvisited t.visited, paths.length)
decreasing_by
  · exact Prod.Lex.right _ (Nat.lt_succ_self _)
  · exact lex_of_le_of_lt (net.unvisited_anti (List.subset_cons_self path t.visited))
      (Nat.lt_succ_self _)
  · exact Prod.Lex.left _ _ (unvisited_lt _hnode _hseen)
  · exact lex_of_le_of_lt (net.unvisited_anti fun _ hp => inner.2 (List.mem_cons_of_mem path hp))
      (Nat.lt_succ_self _)

/-- The traversal of a list of paths with an action: a path is entered at most once, paths outside
the network are passed over, and a node is left behind everything it depends on. -/
def traverse (net : MaterialNetwork) (act : σ → String × MaterialNode → σ) (paths : List String)
    (t : Traversal σ) : Traversal σ :=
  (net.traverseGrowing act paths t).1

/-! ## One path after another -/

section Recursion

variable {net : MaterialNetwork} {act : σ → String × MaterialNode → σ} {path : String}
  {rest : List String} {t : Traversal σ}

@[simp] theorem traverse_nil : net.traverse act [] t = t := by
  rw [traverse, traverseGrowing]

theorem traverse_cons_of_visited (hseen : path ∈ t.visited) :
    net.traverse act (path :: rest) t = net.traverse act rest t := by
  rw [traverse, traverseGrowing, dif_pos hseen, traverse]

theorem traverse_cons_of_missing (hnew : path ∉ t.visited) (hnode : net.node? path = none) :
    net.traverse act (path :: rest) t = net.traverse act rest (t.enter path) := by
  rw [traverse, traverseGrowing, dif_neg hnew]
  split
  · rfl
  · rename_i hsome
    rw [hnode] at hsome
    cases hsome

theorem traverse_cons_of_node {node : MaterialNode} (hnew : path ∉ t.visited)
    (hnode : net.node? path = some node) :
    net.traverse act (path :: rest) t =
      net.traverse act rest
        ((net.traverse act node.dependencies (t.enter path)).leave act (path, node)) := by
  rw [traverse, traverseGrowing, dif_neg hnew]
  split
  · rename_i hnone
    rw [hnode] at hnone
    cases hnone
  · rename_i node' hsome
    rw [hnode, Option.some.injEq] at hsome
    subst hsome
    rfl

theorem traverse_singleton :
    net.traverse act [path] t =
      if path ∈ t.visited then t
      else
        match net.node? path with
        | none => t.enter path
        | some node =>
          (net.traverse act node.dependencies (t.enter path)).leave act (path, node) := by
  split
  · rename_i hseen
    rw [traverse_cons_of_visited hseen, traverse_nil]
  · rename_i hnew
    cases hnode : net.node? path with
    | none => rw [traverse_cons_of_missing hnew hnode, traverse_nil]
    | some node => rw [traverse_cons_of_node hnew hnode, traverse_nil]

/-- The paths of a list are visited from left to right. -/
theorem traverse_cons :
    net.traverse act (path :: rest) t = net.traverse act rest (net.traverse act [path] t) := by
  rw [@traverse_singleton]
  split
  · rename_i hseen
    exact traverse_cons_of_visited hseen
  · rename_i hnew
    cases hnode : net.node? path with
    | none => exact traverse_cons_of_missing hnew hnode
    | some node => exact traverse_cons_of_node hnew hnode

end Recursion

/-- Induction along the recursion. -/
@[elab_as_elim]
theorem traverse_induction (net : MaterialNetwork) (act : σ → String × MaterialNode → σ)
    {motive : List String → Traversal σ → Prop} (nil : ∀ t, motive [] t)
    (seen : ∀ path rest t, path ∈ t.visited → motive rest t → motive (path :: rest) t)
    (missing : ∀ path rest t, path ∉ t.visited → net.node? path = none →
      motive rest (t.enter path) → motive (path :: rest) t)
    (node : ∀ path node rest t, path ∉ t.visited → net.node? path = some node →
      motive node.dependencies (t.enter path) →
      motive rest ((net.traverse act node.dependencies (t.enter path)).leave act (path, node)) →
      motive (path :: rest) t)
    (paths : List String) (t : Traversal σ) : motive paths t := by
  induction paths, t using traverseGrowing.induct net act with
  | case1 t => exact nil t
  | case2 t path rest hseen ih => exact seen path rest t hseen ih
  | case3 t path rest hnew hnode ih => exact missing path rest t hnew hnode ih
  | case4 t path rest hnew n hnode _ ihInner ihRest =>
    exact node path n rest t hnew hnode ihInner ihRest

end MaterialNetwork

end ShadingGraph
