import ShadingGraph.Shading.Parameter
import ShadingGraph.Shading.Reference

/-!
# Conversion of material networks

The renderer expects shading nodes in an order in which a node stands behind everything it depends
on, that is, behind the nodes that feed it and what these depend on. The network is therefore walked
depth first from a root: a list of pending tasks says which paths are still to be entered and which
nodes are to be emitted once everything they depend on has been dealt with. A node is emitted once,
at its first visit, and cycles end at the first path that is met again. A node that cannot be
converted is left out, together with the references to it; only at the root is that an error.

## Main definitions

- `ConversionError` — why a node could not be converted
- `classify` — the kind of a shader
- `ShaderCatalog.convertNode` — the shading node of one node
- `Walk`, `Walk.step` — the state of the walk and one step of it
- `ShaderCatalog.convert` — the shading nodes of a root and of everything it depends on
-/

namespace ShadingGraph

/-- Why a node could not be converted. -/
inductive ConversionError where
  /-- The path is not in the network. -/
  | missingNode (path : String)
  /-- No acceptable shader has the type identifier. -/
  | unknownShader (path typeId : String)
  /-- The context of the shader is that of no kind. -/
  | unknownContext (path shader context : String)
  /-- The implementation of the shader was not found. -/
  | missingImplementation (path shader : String)
deriving DecidableEq

/-- The message of a conversion error. -/
def ConversionError.message : ConversionError → String
  | .missingNode path => "Unknown material node '" ++ path ++ "'"
  | .unknownShader path typeId => "Unknown shader ID '" ++ typeId ++ "' for node <" ++ path ++ ">"
  | .unknownContext path shader context =>
    "Unknown shader entry type '" ++ context ++ "' for shader '" ++ shader ++ "' at <" ++ path ++
      ">"
  | .missingImplementation path shader =>
    "Shader '" ++ shader ++ "' at <" ++ path ++ "> did not provide a valid implementation path"

/-- The kind of a shader by its context. The displacing pattern declares the context of a pattern
and is told apart by its identifier. -/
def classify (typeId : String) : String → Option ShadingKind
  | "bxdf" | "surface" | "volume" => some .bxdf
  | "pattern" | "OSL" =>
    if typeId = RenderMan.displacePattern then some .displacement else some .pattern
  | "displacement" => some .displacement
  | "light" => some .light
  | "lightFilter" => some .lightFilter
  | _ => none

namespace ShaderCatalog

/-- The shading node of a node, given the paths that have failed so far. Authored parameters are
written first and references after them, so that a reference takes the place of a value. -/
def convertNode (c : ShaderCatalog) (net : MaterialNetwork) (failed : List String) (path : String)
    (node : MaterialNode) : Except ConversionError ShadingNode :=
  match c.describe node.typeId with
  | none => .error (.unknownShader path node.typeId)
  | some descriptor =>
    match classify node.typeId descriptor.context with
    | none => .error (.unknownContext path descriptor.name descriptor.context)
    | some kind =>
      if descriptor.resolvedUri.isEmpty then
        .error (.missingImplementation path descriptor.name)
      else
        .ok
          { kind
            handle := path
            name :=
              if kind.selectsByName then descriptor.implementationName else descriptor.resolvedUri
            parameters :=
              c.convertConnections net failed node descriptor
                (convertParameters c.isImage node descriptor kind ∅) }

end ShaderCatalog

/-- What is still to be done on a walk. -/
inductive WalkTask where
  /-- Visit a path. -/
  | enter (path : String)
  /-- Convert a node whose dependencies have been dealt with. -/
  | emit (path : String) (node : MaterialNode)
deriving DecidableEq

/-- The state of a walk. -/
structure Walk where
  /-- The tasks, the next one first. -/
  pending : List WalkTask
  /-- The paths entered so far. -/
  visited : List String
  /-- The paths of the nodes that could not be converted. -/
  failed : List String
  /-- The shading nodes so far, in order. -/
  emitted : List ShadingNode
deriving DecidableEq

namespace Walk

/-- The walk before its first step. -/
def start (root : String) : Walk := ⟨[.enter root], [], [], []⟩

/-- Enters a path. A path entered before is passed over; one that is not in the network is an error
at the root and passed over elsewhere; otherwise the paths it depends on are to be entered, in the
order of the connections, and then its node is to be emitted. -/
def enter (net : MaterialNetwork) (root path : String) (rest : List WalkTask) (w : Walk) :
    Except ConversionError Walk :=
  if path ∈ w.visited then .ok { w with pending := rest }
  else
    match net.node? path with
    | none =>
      if path = root then .error (.missingNode path)
      else .ok { w with pending := rest, visited := path :: w.visited }
    | some node =>
      .ok
        { w with
          pending := node.dependencies.map .enter ++ .emit path node :: rest
          visited := path :: w.visited }

/-- Emits a node. A failure is an error at the root and is noted elsewhere. -/
def emit (c : ShaderCatalog) (net : MaterialNetwork) (root path : String) (node : MaterialNode)
    (rest : List WalkTask) (w : Walk) : Except ConversionError Walk :=
  match c.convertNode net w.failed path node with
  | .ok shadingNode => .ok { w with pending := rest, emitted := w.emitted ++ [shadingNode] }
  | .error e =>
    if path = root then .error e
    else .ok { w with pending := rest, failed := path :: w.failed }

/-- Does the next task, given apart from the tasks behind it. -/
def step (c : ShaderCatalog) (net : MaterialNetwork) (root : String) (task : WalkTask)
    (rest : List WalkTask) (w : Walk) : Except ConversionError Walk :=
  match task with
  | .enter path => w.enter net root path rest
  | .emit path node => w.emit c net root path node rest

/-! ## The walk ends

Entering a node that is in the network uses up one of the paths not yet visited; every other step
uses up a task and adds none. -/

/-- The number of paths of the network that have not been visited. -/
def unvisited (net : MaterialNetwork) (w : Walk) : Nat :=
  (net.paths.filter fun p => decide (p ∉ w.visited)).length

private theorem filter_visited_le (paths visited : List String) (path : String) :
    (paths.filter fun p => decide (p ∉ path :: visited)).length ≤
      (paths.filter fun p => decide (p ∉ visited)).length := by
  induction paths with
  | nil => simp
  | cons p rest ih =>
    by_cases h : p ∈ visited
    · simpa [List.filter_cons, h] using ih
    · by_cases hp : p = path
      · simp only [List.filter_cons, List.mem_cons, hp, true_or, not_true, decide_false]
        simp only [hp] at h
        simp only [h, not_false_iff, decide_true, if_true, List.length_cons]
        exact Nat.le_succ_of_le (by simpa using ih)
      · simpa [List.filter_cons, h, hp] using ih

private theorem filter_visited_lt {paths visited : List String} {path : String}
    (hmem : path ∈ paths) (hnew : path ∉ visited) :
    (paths.filter fun p => decide (p ∉ path :: visited)).length <
      (paths.filter fun p => decide (p ∉ visited)).length := by
  induction paths with
  | nil => simp at hmem
  | cons p rest ih =>
    by_cases hp : p = path
    · subst hp
      simpa [List.filter_cons, hnew] using
        Nat.lt_succ_of_le (filter_visited_le rest visited p)
    · have hrest : path ∈ rest := by
        rcases List.mem_cons.1 hmem with h | h
        · exact absurd h.symm hp
        · exact h
      by_cases h : p ∈ visited
      · simpa [List.filter_cons, h] using ih hrest
      · simpa [List.filter_cons, h, hp] using ih hrest

/-- Every step comes closer to the end. -/
theorem step_decreases {c : ShaderCatalog} {net : MaterialNetwork} {root : String}
    {task : WalkTask} {rest : List WalkTask} {w w' : Walk} (hw : w.pending = task :: rest)
    (h : w.step c net root task rest = .ok w') :
    Prod.Lex (· < ·) (· < ·) (w'.unvisited net, w'.pending.length)
      (w.unvisited net, w.pending.length) := by
  have shorter : ∀ {v : Walk}, v.unvisited net ≤ w.unvisited net → v.pending = rest →
      Prod.Lex (· < ·) (· < ·) (v.unvisited net, v.pending.length)
        (w.unvisited net, w.pending.length) := by
    intro v hv hp
    rcases Nat.lt_or_eq_of_le hv with hlt | heq
    · exact Prod.Lex.left _ _ hlt
    · rw [heq]
      exact Prod.Lex.right _ (by simp [hp, hw])
  cases task with
  | enter path =>
    simp only [step, enter] at h
    split at h
    · cases h
      exact shorter (Nat.le_refl _) rfl
    · rename_i hnew
      cases hn : net.node? path with
      | none =>
        simp only [hn] at h
        split at h
        · cases h
        · cases h
          exact shorter (filter_visited_le _ _ _) rfl
      | some node =>
        simp only [hn, Except.ok.injEq] at h
        cases h
        have hmem : path ∈ net.paths := by
          apply Classical.byContradiction
          intro hno
          have := OrderedMap.find?_eq_none_iff.2 hno
          exact absurd (hn.symm.trans this) (by simp)
        exact Prod.Lex.left _ _ (filter_visited_lt hmem hnew)
  | emit path node =>
    simp only [step, emit] at h
    split at h
    · cases h
      exact shorter (Nat.le_refl _) rfl
    · split at h
      · cases h
      · cases h
        exact shorter (Nat.le_refl _) rfl

end Walk

namespace ShaderCatalog

/-- Carries a walk through to its end. -/
def runWalk (c : ShaderCatalog) (net : MaterialNetwork) (root : String) (w : Walk) :
    Except ConversionError (List ShadingNode) :=
  match _hp : w.pending with
  | [] => .ok w.emitted
  | task :: rest =>
    match _hs : w.step c net root task rest with
    | .error e => .error e
    | .ok w' => c.runWalk net root w'
termination_by (w.unvisited net, w.pending.length)
decreasing_by exact Walk.step_decreases _hp _hs

/-- The shading nodes of a root and of everything it depends on, each behind the nodes it refers to
unless they lie on a cycle with it. -/
def convert (c : ShaderCatalog) (net : MaterialNetwork) (root : String) :
    Except ConversionError (List ShadingNode) :=
  c.runWalk net root (Walk.start root)

end ShaderCatalog

end ShadingGraph
