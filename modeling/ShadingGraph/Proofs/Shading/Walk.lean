import ShadingGraph.Proofs.Network.PostOrder
import ShadingGraph.Proofs.Shading.NodeConversion

/-!
# The walk follows the post-order

The pending tasks of a walk spell out what is left of the post-order of its root. Each step either
leaves that rest as it is or deals with its first node, which is then converted against the failures
among the nodes in front of it.

## Main definitions

- `Walk.Does` — what one step can do
- `Walk.Reached` — the states that a walk from a root comes to
- `MaterialNetwork.ahead` — the part of the order that pending tasks stand for
- `Walk.Follows` — the invariant: what has been dealt with and what is ahead make up the order

## Main results

- `Walk.Follows.step`, `Walk.Reached.follows` — the invariant is kept, and holds along every walk
- `Walk.Reached.follows_emit`, `Walk.Reached.exists_emit` — what each node is converted against
-/

namespace ShadingGraph

namespace Walk

variable {c : ShaderCatalog} {net : MaterialNetwork} {root : String}

/-! ## Steps -/

/-- What the next task does to a walk. -/
inductive Does (c : ShaderCatalog) (net : MaterialNetwork) (root : String)
    (rest : List WalkTask) (w : Walk) : WalkTask → Walk → Prop where
  /-- The path has been entered before. -/
  | seen (path : String) (hseen : path ∈ w.visited) :
    Does c net root rest w (.enter path) { w with pending := rest }
  /-- The path is not in the network. -/
  | missing (path : String) (hnew : path ∉ w.visited) (hnode : net.node? path = none)
    (hroot : path ≠ root) :
    Does c net root rest w (.enter path) { w with pending := rest, visited := path :: w.visited }
  /-- The node at the path waits for what it depends on. -/
  | entered (path : String) (node : MaterialNode) (hnew : path ∉ w.visited)
    (hnode : net.node? path = some node) :
    Does c net root rest w (.enter path)
      { w with
        pending := node.dependencies.map .enter ++ .emit path node :: rest
        visited := path :: w.visited }
  /-- The node converts. -/
  | emitted (path : String) (node : MaterialNode) (n : ShadingNode)
    (hconvert : c.convertNode net w.failed path node = .ok n) :
    Does c net root rest w (.emit path node)
      { w with pending := rest, emitted := w.emitted ++ [n] }
  /-- The node fails. -/
  | failed (path : String) (node : MaterialNode) (e : ConversionError)
    (hconvert : c.convertNode net w.failed path node = .error e) (hroot : path ≠ root) :
    Does c net root rest w (.emit path node) { w with pending := rest, failed := path :: w.failed }

variable {task : WalkTask} {rest : List WalkTask} {w w' : Walk} {e : ConversionError}

theorem does_of_step (h : w.step c net root task rest = .ok w') :
    Does c net root rest w task w' := by
  cases task with
  | enter path =>
    simp only [step, enter] at h
    split at h
    · rename_i hseen
      cases h
      exact .seen path hseen
    · rename_i hnew
      cases hnode : net.node? path with
      | none =>
        simp only [hnode] at h
        split at h
        · cases h
        · rename_i hroot
          cases h
          exact .missing path hnew hnode hroot
      | some node =>
        simp only [hnode, Except.ok.injEq] at h
        cases h
        exact .entered path node hnew hnode
  | emit path node =>
    simp only [step, emit] at h
    split at h
    · rename_i n hconvert
      cases h
      exact .emitted path node n hconvert
    · rename_i e hconvert
      split at h
      · cases h
      · rename_i hroot
        cases h
        exact .failed path node e hconvert hroot

/-- A step fails only at the root: it is not in the network, or it cannot be converted. -/
theorem of_step_error (h : w.step c net root task rest = .error e) :
    (task = .enter root ∧ root ∉ w.visited ∧ net.node? root = none ∧ e = .missingNode root) ∨
      ∃ node, task = .emit root node ∧ c.convertNode net w.failed root node = .error e := by
  cases task with
  | enter path =>
    simp only [step, enter] at h
    split at h
    · cases h
    · rename_i hnew
      cases hnode : net.node? path with
      | none =>
        simp only [hnode] at h
        split at h
        · rename_i hroot
          cases h
          subst hroot
          exact Or.inl ⟨rfl, hnew, hnode, rfl⟩
        · cases h
      | some node =>
        simp only [hnode] at h
        cases h
  | emit path node =>
    simp only [step, emit] at h
    split at h
    · cases h
    · rename_i hconvert
      split at h
      · rename_i hroot
        cases h
        subst hroot
        exact Or.inr ⟨node, rfl, hconvert⟩
      · cases h

/-! ## The states of a walk -/

inductive Reached (c : ShaderCatalog) (net : MaterialNetwork) (root : String) : Walk → Prop where
  | start : Reached c net root (start root)
  | step {w w' : Walk} {task : WalkTask} {rest : List WalkTask} (hw : Reached c net root w)
    (hpending : w.pending = task :: rest) (hstep : w.step c net root task rest = .ok w') :
    Reached c net root w'

theorem runWalk_of_done (h : w.pending = []) : c.runWalk net root w = .ok w.emitted := by
  rw [ShaderCatalog.runWalk]
  split
  · rfl
  · rename_i hpending
    rw [h] at hpending
    cases hpending

theorem runWalk_of_task (hpending : w.pending = task :: rest) :
    c.runWalk net root w = (w.step c net root task rest).bind (c.runWalk net root) := by
  rw [ShaderCatalog.runWalk]
  split
  · rename_i hdone
    rw [hpending] at hdone
    cases hdone
  · rename_i task' rest' hpending'
    rw [hpending, List.cons.injEq] at hpending'
    obtain ⟨rfl, rfl⟩ := hpending'
    split
    · rename_i hstep
      rw [hstep]
      rfl
    · rename_i hstep
      rw [hstep]
      rfl

/-- A walk ends in a state that it comes to: with no task left, or at a step that fails. -/
theorem Reached.exists_end (hw : Reached c net root w) :
    (∃ w', Reached c net root w' ∧ w'.pending = [] ∧ c.runWalk net root w = .ok w'.emitted) ∨
      ∃ w' task rest e, Reached c net root w' ∧ w'.pending = task :: rest ∧
        w'.step c net root task rest = .error e ∧ c.runWalk net root w = .error e := by
  induction w using ShaderCatalog.runWalk.induct c net root with
  | case1 w hpending => exact Or.inl ⟨w, hw, hpending, runWalk_of_done hpending⟩
  | case2 w task rest hpending e hstep =>
    refine Or.inr ⟨w, task, rest, e, hw, hpending, hstep, ?_⟩
    rw [runWalk_of_task hpending, hstep]
    rfl
  | case3 w task rest hpending w' hstep ih =>
    rw [runWalk_of_task hpending, hstep]
    exact ih (hw.step hpending hstep)

theorem Reached.root_not_mem_failed (hw : Reached c net root w) : root ∉ w.failed := by
  induction hw with
  | start => exact List.not_mem_nil
  | step hw hpending hstep ih =>
    cases does_of_step hstep with
    | seen path hseen => exact ih
    | missing path hnew hnode hroot => exact ih
    | entered path node hnew hnode => exact ih
    | emitted path node n hconvert => exact ih
    | failed path node e hconvert hroot => exact List.not_mem_cons_of_ne_of_not_mem hroot.symm ih

end Walk

/-! ## What is ahead of a walk -/

namespace MaterialNetwork

variable {net : MaterialNetwork} {path : String} {rest : List WalkTask} {visited : List String}

/-- The part of the post-order that pending tasks stand for. -/
def ahead (net : MaterialNetwork) : List WalkTask → List String → List (String × MaterialNode)
  | [], _ => []
  | .enter path :: rest, visited =>
    (net.postOrder [path] visited).result ++ net.ahead rest (net.postOrder [path] visited).visited
  | .emit path node :: rest, visited => (path, node) :: net.ahead rest visited

theorem ahead_map_enter (paths visited : List String) :
    net.ahead (paths.map .enter ++ rest) visited =
      (net.postOrder paths visited).result ++
        net.ahead rest (net.postOrder paths visited).visited := by
  induction paths generalizing visited with
  | nil => simp
  | cons path paths ih =>
    rw [List.map_cons, List.cons_append, ahead, ih, @postOrder_cons net path paths visited,
      List.append_assoc]

theorem ahead_enter_of_visited (hseen : path ∈ visited) :
    net.ahead (.enter path :: rest) visited = net.ahead rest visited := by
  rw [ahead, postOrder_cons_of_visited hseen, postOrder_nil, List.nil_append]

theorem ahead_enter_of_missing (hnew : path ∉ visited) (hnode : net.node? path = none) :
    net.ahead (.enter path :: rest) visited = net.ahead rest (path :: visited) := by
  rw [ahead, postOrder_cons_of_missing hnew hnode, postOrder_nil, List.nil_append]

theorem ahead_enter_of_node {node : MaterialNode} (hnew : path ∉ visited)
    (hnode : net.node? path = some node) :
    net.ahead (.enter path :: rest) visited =
      net.ahead (node.dependencies.map .enter ++ .emit path node :: rest) (path :: visited) := by
  rw [ahead, postOrder_cons_of_node hnew hnode, postOrder_nil, ahead_map_enter, ahead,
    List.append_assoc, List.cons_append, List.nil_append]

end MaterialNetwork

namespace Walk

variable {c : ShaderCatalog} {net : MaterialNetwork} {root : String} {w w' : Walk}
  {task : WalkTask} {rest : List WalkTask} {done : List (String × MaterialNode)}

def conversions (w : Walk) : Conversions := ⟨w.failed, w.emitted⟩

/-- A walk has dealt with a first part of the order of its root, and the rest is ahead of it. -/
structure Follows (c : ShaderCatalog) (net : MaterialNetwork) (root : String)
    (done : List (String × MaterialNode)) (w : Walk) : Prop where
  order : net.orderFrom root = done ++ net.ahead w.pending w.visited
  conversions : w.conversions = c.convertAll net done

theorem follows_start : Follows c net root [] (start root) where
  order := by
    rw [start, MaterialNetwork.ahead, MaterialNetwork.ahead, List.append_nil, List.nil_append]
    rfl
  conversions := rfl

/-- Every step keeps to the order. -/
theorem Follows.step (h : Follows c net root done w) (hpending : w.pending = task :: rest)
    (hstep : w.step c net root task rest = .ok w') : ∃ done', Follows c net root done' w' := by
  obtain ⟨horder, hconversions⟩ := h
  rw [hpending] at horder
  -- Entering a path rewrites what is ahead; only a conversion moves a node over to what is done.
  cases does_of_step hstep with
  | seen path hseen =>
    rw [MaterialNetwork.ahead_enter_of_visited hseen] at horder
    exact ⟨done, horder, hconversions⟩
  | missing path hnew hnode hroot =>
    rw [MaterialNetwork.ahead_enter_of_missing hnew hnode] at horder
    exact ⟨done, horder, hconversions⟩
  | entered path node hnew hnode =>
    rw [MaterialNetwork.ahead_enter_of_node hnew hnode] at horder
    exact ⟨done, horder, hconversions⟩
  | emitted path node n hconvert =>
    refine ⟨done ++ [(path, node)], by simpa [MaterialNetwork.ahead] using horder, ?_⟩
    rw [ShaderCatalog.convertAll_concat, ← hconversions, ShaderCatalog.addConversion]
    simp only [Walk.conversions, hconvert]
  | failed path node e hconvert hroot =>
    refine ⟨done ++ [(path, node)], by simpa [MaterialNetwork.ahead] using horder, ?_⟩
    rw [ShaderCatalog.convertAll_concat, ← hconversions, ShaderCatalog.addConversion]
    simp only [Walk.conversions, hconvert]

theorem Reached.follows (hw : Reached c net root w) : ∃ done, Follows c net root done w := by
  induction hw with
  | start => exact ⟨[], follows_start⟩
  | step _ hpending hstep ih =>
    obtain ⟨done, hdone⟩ := ih
    exact hdone.step hpending hstep

/-- When a walk comes to convert a node, it has dealt with the nodes in front of it. -/
theorem Reached.follows_emit {path : String} {node : MaterialNode} (hw : Reached c net root w)
    (hpending : w.pending = .emit path node :: rest) :
    ∃ front back, net.orderFrom root = front ++ (path, node) :: back ∧
      w.conversions = c.convertAll net front := by
  obtain ⟨front, horder, hconversions⟩ := hw.follows
  rw [hpending, MaterialNetwork.ahead] at horder
  exact ⟨front, _, horder, hconversions⟩

/-- Each shading node so far was made when its task was next. -/
theorem Reached.exists_emit {n : ShadingNode} (hw : Reached c net root w) (hn : n ∈ w.emitted) :
    ∃ w' node rest, Reached c net root w' ∧ w'.pending = .emit n.handle node :: rest ∧
      c.convertNode net w'.failed n.handle node = .ok n := by
  induction hw with
  | start => exact absurd hn List.not_mem_nil
  | @step w w' task rest hw hpending hstep ih =>
    cases does_of_step hstep with
    | seen path hseen => exact ih hn
    | missing path hnew hnode hroot => exact ih hn
    | entered path node hnew hnode => exact ih hn
    | failed path node e hconvert hroot => exact ih hn
    | emitted path node m hconvert =>
      rcases List.mem_append.1 hn with hold | hlast
      · exact ih hold
      · obtain rfl := List.mem_singleton.1 hlast
        obtain rfl := ShaderCatalog.handle_of_convertNode hconvert
        exact ⟨w, node, rest, hw, hpending, hconvert⟩

end Walk

end ShadingGraph
