import Mathlib
import ShadingGraph.Proofs.OrderedMap
import ShadingGraph.Proofs.Shading.Walk

/-!
# How many steps a walk takes

Each task of a walk is one step, and every task that is added is done. A walk from a root therefore
takes one step to enter the root, one to enter the path of each connection that it meets, and one to
emit each node that it meets, and it meets what the root reaches.

## Main definitions

- `Walk.ReachesIn`, `Walk.EndsIn` — steps that succeed, and the steps up to the end of a walk
- `MaterialNetwork.nodesFrom` — the nodes that a root reaches

## Main results

- `Walk.exists_reachesIn` — the steps that a list of paths takes, and where they lead
- `Walk.endsIn_start_iff` — how many steps a walk from a root takes, and how it ends
-/

namespace ShadingGraph

theorem MaterialNode.length_dependencies (node : MaterialNode) :
    node.dependencies.length = node.connections.length :=
  List.length_map _

namespace MaterialNetwork

variable {net : MaterialNetwork} {root path : String} {node : MaterialNode}

/-- The nodes that a root reaches, with their paths, in the order of the network. -/
def nodesFrom (net : MaterialNetwork) (root : String) : List (String × MaterialNode) :=
  net.nodes.entries.filter fun entry => net.Reaches root entry.1

theorem mem_nodesFrom_iff :
    (path, node) ∈ net.nodesFrom root ↔ net.Reaches root path ∧ net.node? path = some node := by
  rw [nodesFrom, List.mem_filter, decide_eq_true_iff, node?, OrderedMap.find?_eq_some_iff_mem]
  exact and_comm

/-- The order of a root holds the nodes that the root reaches, each of them once. -/
theorem perm_orderFrom (net : MaterialNetwork) (root : String) :
    (net.nodesFrom root).Perm (net.orderFrom root) := by
  have hnodup : net.nodes.entries.Nodup := net.nodes.nodup.of_map Prod.fst
  refine (List.perm_ext_iff_of_nodup (hnodup.filter _) ?_).2 fun entry => ?_
  · exact (net.nodup_orderFrom root).of_map Prod.fst
  · exact mem_nodesFrom_iff.trans mem_orderFrom_iff.symm

/-- The tasks that the nodes of an order add to a walk: to enter the path of each connection, and to
emit the node. -/
def taskCount (order : List (String × MaterialNode)) : Nat :=
  (order.map fun entry => entry.2.connections.length + 1).sum

@[simp] theorem taskCount_nil : taskCount [] = 0 := rfl

@[simp] theorem taskCount_cons (path : String) (node : MaterialNode)
    (order : List (String × MaterialNode)) :
    taskCount ((path, node) :: order) = node.connections.length + 1 + taskCount order := rfl

@[simp] theorem taskCount_append (order order' : List (String × MaterialNode)) :
    taskCount (order ++ order') = taskCount order + taskCount order' := by
  simp [taskCount]

theorem taskCount_orderFrom (net : MaterialNetwork) (root : String) :
    taskCount (net.orderFrom root) =
      (net.nodesFrom root).length +
        ((net.nodesFrom root).map fun entry => entry.2.connections.length).sum := by
  rw [taskCount, ← ((net.perm_orderFrom root).map _).sum_eq, List.sum_map_add, List.map_const',
    List.sum_replicate_nat, Nat.mul_one, Nat.add_comm]

theorem orderFrom_of_missing (h : net.node? root = none) : net.orderFrom root = [] := by
  rw [orderFrom, postOrder_cons_of_missing List.not_mem_nil h, postOrder_nil]

end MaterialNetwork

namespace Walk

open MaterialNetwork

variable {c : ShaderCatalog} {net : MaterialNetwork} {root : String}

/-- A number of steps that succeed leads from one state of a walk to another. -/
inductive ReachesIn (c : ShaderCatalog) (net : MaterialNetwork) (root : String) :
    Nat → Walk → Walk → Prop where
  | zero (w : Walk) : ReachesIn c net root 0 w w
  | step {n : Nat} {w w' w'' : Walk} {task : WalkTask} {rest : List WalkTask}
    (hpending : w.pending = task :: rest) (hstep : w.step c net root task rest = .ok w')
    (h : ReachesIn c net root n w' w'') : ReachesIn c net root (n + 1) w w''

/-- A walk ends after a number of steps: with the nodes emitted so far where no task is left, or at
a step that fails. -/
inductive EndsIn (c : ShaderCatalog) (net : MaterialNetwork) (root : String) :
    Nat → Walk → Except ConversionError (List ShadingNode) → Prop where
  | done {w : Walk} (hpending : w.pending = []) : EndsIn c net root 0 w (.ok w.emitted)
  | failed {w : Walk} {task : WalkTask} {rest : List WalkTask} {e : ConversionError}
    (hpending : w.pending = task :: rest) (hstep : w.step c net root task rest = .error e) :
    EndsIn c net root 1 w (.error e)
  | step {n : Nat} {w w' : Walk} {task : WalkTask} {rest : List WalkTask}
    {result : Except ConversionError (List ShadingNode)} (hpending : w.pending = task :: rest)
    (hstep : w.step c net root task rest = .ok w') (h : EndsIn c net root n w' result) :
    EndsIn c net root (n + 1) w result

section Counting

variable {n m : Nat} {w w' w'' : Walk} {result : Except ConversionError (List ShadingNode)}

theorem ReachesIn.trans (h : ReachesIn c net root n w w') (h' : ReachesIn c net root m w' w'') :
    ReachesIn c net root (n + m) w w'' := by
  induction h with
  | zero w => rwa [Nat.zero_add]
  | step hpending hstep _ ih =>
    rw [Nat.add_right_comm]
    exact .step hpending hstep (ih h')

theorem ReachesIn.endsIn (h : ReachesIn c net root n w w') (h' : EndsIn c net root m w' result) :
    EndsIn c net root (n + m) w result := by
  induction h with
  | zero w => rwa [Nat.zero_add]
  | step hpending hstep _ ih =>
    rw [Nat.add_right_comm]
    exact .step hpending hstep (ih h')

theorem EndsIn.runWalk_eq (h : EndsIn c net root n w result) :
    c.runWalk net root w = result := by
  induction h with
  | done hpending => exact runWalk_of_done hpending
  | failed hpending hstep =>
    rw [runWalk_of_task hpending, hstep]
    rfl
  | step hpending hstep _ ih =>
    rw [runWalk_of_task hpending, hstep]
    exact ih

/-- A walk ends after one number of steps only. -/
theorem EndsIn.steps_unique {result' : Except ConversionError (List ShadingNode)}
    (h : EndsIn c net root n w result) (h' : EndsIn c net root m w result') : n = m := by
  induction h generalizing m with
  | done hpending => cases h' <;> simp_all
  | failed hpending hstep => cases h' <;> simp_all
  | step hpending hstep _ ih =>
    cases h' with
    | done hpending' => simp_all
    | failed hpending' hstep' => simp_all
    | step hpending' hstep' h'' =>
      rw [hpending, List.cons.injEq] at hpending'
      obtain ⟨rfl, rfl⟩ := hpending'
      rw [hstep, Except.ok.injEq] at hstep'
      subst hstep'
      rw [ih h'']

end Counting

/-! ## One step -/

section Steps

variable {path : String} {node : MaterialNode} (c : ShaderCatalog) (w : Walk)
  (rest : List WalkTask)

theorem exists_step_of_visited (hseen : path ∈ w.visited) :
    ∃ w', w.step c net root (.enter path) rest = .ok w' ∧ w'.pending = rest ∧
      w'.visited = w.visited :=
  ⟨_, if_pos hseen, rfl, rfl⟩

theorem exists_step_of_missing (hnew : path ∉ w.visited) (hnode : net.node? path = none)
    (hne : path ≠ root) :
    ∃ w', w.step c net root (.enter path) rest = .ok w' ∧ w'.pending = rest ∧
      w'.visited = path :: w.visited := by
  rw [step, enter, if_neg hnew, hnode]
  exact ⟨_, if_neg hne, rfl, rfl⟩

theorem exists_step_of_node (hnew : path ∉ w.visited) (hnode : net.node? path = some node) :
    ∃ w', w.step c net root (.enter path) rest = .ok w' ∧
      w'.pending = node.dependencies.map .enter ++ .emit path node :: rest ∧
      w'.visited = path :: w.visited := by
  rw [step, enter, if_neg hnew, hnode]
  exact ⟨_, rfl, rfl, rfl⟩

/-- Away from the root, a node is emitted or fails, and the walk goes on. -/
theorem exists_step_of_ne (node : MaterialNode) (hne : path ≠ root) :
    ∃ w', w.step c net root (.emit path node) rest = .ok w' ∧ w'.pending = rest ∧
      w'.visited = w.visited := by
  rw [step, emit]
  cases c.convertNode net w.failed path node with
  | ok n => exact ⟨_, rfl, rfl, rfl⟩
  | error e => exact ⟨_, if_neg hne, rfl, rfl⟩

end Steps

/-! ## All steps -/

/-- Once the root has been entered, no path to be entered fails: a list of paths is dealt with in
one step for each of them, and in those that the nodes take which are met for the first time. -/
theorem exists_reachesIn (c : ShaderCatalog) (net : MaterialNetwork) (paths visited : List String)
    {rest : List WalkTask} {w : Walk} (hroot : root ∈ visited)
    (hpending : w.pending = paths.map .enter ++ rest) (hvisited : w.visited = visited) :
    ∃ n w', n = paths.length + taskCount (net.postOrder paths visited).result ∧
      ReachesIn c net root n w w' ∧ w'.pending = rest ∧
      w'.visited = (net.postOrder paths visited).visited := by
  induction paths, visited using postOrder_induction net generalizing w rest with
  | nil visited =>
    rw [postOrder_nil]
    exact ⟨0, w, rfl, .zero w, hpending, hvisited⟩
  | seen path paths visited hseen ih =>
    obtain ⟨w₁, hstep, hpending₁, hvisited₁⟩ :=
      w.exists_step_of_visited c (paths.map .enter ++ rest) (hvisited ▸ hseen)
    obtain ⟨n, w', hn, hrun, hend, hafter⟩ := ih hroot hpending₁ (hvisited₁.trans hvisited)
    rw [postOrder_cons_of_visited hseen]
    exact ⟨n + 1, w', by rw [hn, List.length_cons]; omega, .step hpending hstep hrun, hend, hafter⟩
  | missing path paths visited hnew hnode ih =>
    have hne : path ≠ root := fun heq => hnew (heq ▸ hroot)
    obtain ⟨w₁, hstep, hpending₁, hvisited₁⟩ :=
      w.exists_step_of_missing c (paths.map .enter ++ rest) (hvisited ▸ hnew) hnode hne
    obtain ⟨n, w', hn, hrun, hend, hafter⟩ :=
      ih (List.mem_cons_of_mem path hroot) hpending₁ (hvisited ▸ hvisited₁)
    rw [postOrder_cons_of_missing hnew hnode]
    exact ⟨n + 1, w', by rw [hn, List.length_cons]; omega, .step hpending hstep hrun, hend, hafter⟩
  | node path node paths visited hnew hnode ihInner ihRest =>
    have hne : path ≠ root := fun heq => hnew (heq ▸ hroot)
    obtain ⟨w₁, hstep, hpending₁, hvisited₁⟩ :=
      w.exists_step_of_node c (paths.map .enter ++ rest) (hvisited ▸ hnew) hnode
    obtain ⟨nInner, w₂, hnInner, hInner, hpending₂, hvisited₂⟩ :=
      ihInner (List.mem_cons_of_mem path hroot) hpending₁ (hvisited ▸ hvisited₁)
    obtain ⟨w₃, hemit, hpending₃, hvisited₃⟩ :=
      w₂.exists_step_of_ne c (paths.map .enter ++ rest) node hne
    have hroot₃ : root ∈ (net.postOrder node.dependencies (path :: visited)).visited :=
      subset_postOrder_visited _ _ _ (List.mem_cons_of_mem path hroot)
    obtain ⟨nRest, w', hnRest, hRest, hend, hafter⟩ :=
      ihRest hroot₃ hpending₃ (hvisited₃.trans hvisited₂)
    rw [postOrder_cons_of_node hnew hnode]
    -- The node is entered, then what it depends on is dealt with, and then the node is emitted.
    refine ⟨nInner + (nRest + 1) + 1, w', ?_,
      .step hpending hstep (hInner.trans (.step hpending₂ hemit hRest)), hend, hafter⟩
    rw [hnInner, hnRest, taskCount_append, taskCount_cons, List.length_cons,
      node.length_dependencies]
    omega

/-- When the root is the only task left, the walk ends at it. -/
theorem exists_endsIn_of_last {node : MaterialNode} {w : Walk}
    (hpending : w.pending = [.emit root node]) : ∃ result, EndsIn c net root 1 w result := by
  cases hstep : w.step c net root (.emit root node) [] with
  | error e => exact ⟨_, .failed hpending hstep⟩
  | ok w' =>
    have hdone : w'.pending = [] := by
      cases does_of_step hstep <;> rfl
    exact ⟨_, .step hpending hstep (.done hdone)⟩

/-- A walk takes one step to enter its root, and those that the nodes of the order take. -/
theorem exists_endsIn_start (c : ShaderCatalog) (net : MaterialNetwork) (root : String) :
    ∃ result, EndsIn c net root (1 + taskCount (net.orderFrom root)) (start root) result := by
  cases hnode : net.node? root with
  | none =>
    have hstep : (start root).step c net root (.enter root) [] = .error (.missingNode root) := by
      simp [start, step, enter, hnode]
    rw [orderFrom_of_missing hnode]
    exact ⟨_, .failed rfl hstep⟩
  | some node =>
    obtain ⟨w₁, hstep, hpending₁, hvisited₁⟩ :=
      (start root).exists_step_of_node c [] List.not_mem_nil hnode
    obtain ⟨n, w₂, hn, hrun, hpending₂, -⟩ :=
      exists_reachesIn c net node.dependencies [root] List.mem_cons_self hpending₁ hvisited₁
    obtain ⟨result, hends⟩ := exists_endsIn_of_last hpending₂
    have hcount : 1 + taskCount (net.orderFrom root) = n + 1 + 1 := by
      rw [hn, orderFrom_of_node hnode, taskCount_append, taskCount_cons, taskCount_nil,
        node.length_dependencies]
      omega
    rw [hcount]
    exact ⟨result, .step rfl hstep (hrun.endsIn hends)⟩

/-- The walk from a root ends, with the result of the conversion, and it does so after one step for
the root, one for each node that the root reaches and one for each connection of these nodes. -/
theorem endsIn_start_iff (c : ShaderCatalog) (net : MaterialNetwork) (root : String) (n : Nat)
    (result : Except ConversionError (List ShadingNode)) :
    EndsIn c net root n (start root) result ↔
      n = 1 + (net.nodesFrom root).length +
          ((net.nodesFrom root).map fun entry => entry.2.connections.length).sum ∧
        result = c.convert net root := by
  obtain ⟨result', hends⟩ := exists_endsIn_start c net root
  rw [taskCount_orderFrom, ← Nat.add_assoc] at hends
  constructor
  · intro h
    exact ⟨h.steps_unique hends, h.runWalk_eq.symm⟩
  · rintro ⟨rfl, rfl⟩
    rwa [ShaderCatalog.convert, hends.runWalk_eq]

end Walk

end ShadingGraph
