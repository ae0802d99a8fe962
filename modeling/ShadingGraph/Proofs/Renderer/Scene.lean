import ShadingGraph.Proofs.Renderer.Sync
import ShadingGraph.Proofs.Shading.References

/-!
# Materials that share a sink

A scene is a family of materials on one sink. In each step one of them syncs or is finalized, in any
order. A run is a sequence of moves, so what moves keep holds along every run.

## Main definitions

- `MaterialAction`, `Material.act` — a sync or a finalization
- `Scene`, `Scene.step`, `Scene.run` — materials on a sink, and what they do one after the other
- `Scene.ownSteps` — the part of a run that one material does

## Main results

- `Scene.moves_step`, `Scene.moves_run` — steps and runs are sequences of moves
- `Scene.owned_run` — after every run, live networks and valid ids are matched
- `Scene.held_step_sync` — what the sink has for a material after a sync of its
-/

namespace ShadingGraph

/-- What is done with a material. -/
inductive MaterialAction where
  | sync (resource : Option MaterialNetwork) (registry : ShaderRegistry) (settings : SyncSettings)
  | finalize

/-- Does something with a material. -/
def Material.act (m : Material) (sink : NetworkSink) : MaterialAction → SyncState
  | .sync resource registry settings => m.sync resource registry settings sink
  | .finalize => m.finalize sink

/-- Materials that share a sink. They are told apart by an index, not by their paths. -/
structure Scene (ι : Type) where
  materials : ι → Material
  sink : NetworkSink

namespace Scene

variable {ι : Type}

/-- New materials on a sink. -/
def start (paths : ι → String) (sink : NetworkSink) : Scene ι := ⟨fun i => .new (paths i), sink⟩

/-- What one material does next, its report included. -/
def act (s : Scene ι) (e : ι × MaterialAction) : SyncState := (s.materials e.1).act s.sink e.2

def holdings (s : Scene ι) : Holdings ι := ⟨fun p => (s.materials p.1).slot p.2, s.sink⟩

/-- Where a sync or a finalization starts. -/
def atStart (s : Scene ι) (i : ι) (report : SyncReport) : SyncState :=
  ⟨s.materials i, s.sink, report, []⟩

/-- A sync before it releases what is not fed. -/
def afterTerminals (s : Scene ι) (i : ι) (resource : MaterialNetwork) (registry : ShaderRegistry)
    (settings : SyncSettings) : SyncState :=
  let c := settings.catalog registry
  let filtered := settings.filters.execute c (s.materials i).id resource
  filtered.1.terminals.entries.foldl (SyncState.terminal c filtered.1)
    (s.atStart i ((s.materials i).filterReport filtered.2))

theorem mem_fed_afterTerminals {s : Scene ι} {i : ι} {resource : MaterialNetwork}
    {registry : ShaderRegistry} {settings : SyncSettings} {kind : NetworkKind} :
    kind ∈ (s.afterTerminals i resource registry settings).fed ↔
      settings.feeds registry (s.materials i).id resource kind ≠ [] :=
  (SyncState.mem_fed_foldl_terminal _).trans (or_iff_right List.not_mem_nil)

/-- Whatever a material does, it keeps its path. -/
theorem id_act (s : Scene ι) (i : ι) (a : MaterialAction) :
    (s.act (i, a)).material.id = (s.materials i).id := by
  cases a with
  | finalize => exact SyncState.id_releaseAll
  | sync resource registry settings =>
    cases resource with
    | none => exact SyncState.id_releaseAll
    | some resource => exact SyncState.id_releaseAll.trans (SyncState.id_foldl_terminal _)

theorem slot_start {paths : ι → String} {sink : NetworkSink} {p : ι × NetworkKind} :
    (start paths sink).holdings.slot p = .invalid := by
  obtain ⟨i, kind⟩ := p
  cases kind <;> rfl

theorem holdings_start {paths : ι → String} {sink : NetworkSink} :
    (start paths sink).holdings = ⟨fun _ => .invalid, sink⟩ := by
  have hslot : (start paths sink).holdings.slot = fun _ => .invalid := funext fun _ => slot_start
  exact congrArg (Holdings.mk · sink) hslot

theorem owned_start {paths : ι → String} {rejecting : Bool} {supply : Nat → NetworkId} :
    (start paths (.opened rejecting supply)).holdings.Owned := by
  rw [holdings_start]
  exact .opened rejecting supply

variable [DecidableEq ι]

/-- One material acts, and the others stay as they are. -/
def step (s : Scene ι) (e : ι × MaterialAction) : Scene ι :=
  ⟨Function.update s.materials e.1 (s.act e).material, (s.act e).sink⟩

/-- One step after the other. -/
def run (s : Scene ι) (steps : List (ι × MaterialAction)) : Scene ι := steps.foldl step s

/-- What one material does in a run. -/
def ownSteps (i : ι) (steps : List (ι × MaterialAction)) : List (ι × MaterialAction) :=
  steps.filter fun e => decide (e.1 = i)

variable {s : Scene ι} {i j : ι} {e : ι × MaterialAction} {a : MaterialAction}
  {steps : List (ι × MaterialAction)} {kind : NetworkKind} {resource : MaterialNetwork}
  {registry : ShaderRegistry} {settings : SyncSettings}

/-! ## Steps -/

theorem material_step_self : (s.step (i, a)).materials i = (s.act (i, a)).material :=
  Function.update_self _ _ _

theorem material_step_of_ne (hne : i ≠ e.1) : (s.step e).materials i = s.materials i :=
  Function.update_of_ne hne _ _

theorem holdings_step : (s.step e).holdings = s.holdings.during e.1 (s.act e) := by
  have hslot : (s.step e).holdings.slot = (s.holdings.during e.1 (s.act e)).slot := by
    funext p
    obtain ⟨i, kind⟩ := p
    by_cases hi : i = e.1
    · subst hi
      rw [Holdings.slot_put_self]
      exact congrArg (Material.slot · kind) material_step_self
    · rw [Holdings.slot_put_of_ne hi]
      exact congrArg (Material.slot · kind) (material_step_of_ne hi)
  exact congrArg (Holdings.mk · (s.act e).sink) hslot

theorem during_atStart (s : Scene ι) (i : ι) {report : SyncReport} :
    s.holdings.during i (s.atStart i report) = s.holdings :=
  Holdings.put_eq_self fun _ => rfl

theorem owned_atStart (howned : s.holdings.Owned) {report : SyncReport} :
    (s.holdings.during i (s.atStart i report)).Owned := by
  rwa [during_atStart]

theorem moves_released (s : Scene ι) (i : ι) (report : SyncReport) :
    Holdings.Moves (· = i) s.holdings (s.holdings.during i (s.atStart i report).releaseAll) := by
  have hmoves := s.holdings.moves_releaseAll i (s.atStart i report)
  rwa [during_atStart] at hmoves

theorem moves_afterTerminals (s : Scene ι) (i : ι) (resource : MaterialNetwork)
    (registry : ShaderRegistry) (settings : SyncSettings) :
    Holdings.Moves (· = i) s.holdings
      (s.holdings.during i (s.afterTerminals i resource registry settings)) := by
  refine Holdings.Moves.trans ?_ (s.holdings.moves_foldl_terminal i _ _ _ _)
  rw [during_atStart]
  exact .refl

theorem moves_step (s : Scene ι) (e : ι × MaterialAction) :
    Holdings.Moves (· = e.1) s.holdings (s.step e).holdings := by
  obtain ⟨i, a⟩ := e
  rw [holdings_step]
  cases a with
  | finalize => exact s.moves_released i _
  | sync resource registry settings =>
    cases resource with
    | none => exact s.moves_released i _
    | some resource =>
      -- The network that is noted in the end does not matter to who holds what.
      exact (s.moves_afterTerminals i resource registry settings).trans
        (s.holdings.moves_releaseAll i _)

/-! ## Runs -/

theorem run_concat (front : List (ι × MaterialAction)) :
    s.run (front ++ [e]) = (s.run front).step e := List.foldl_append

theorem ownSteps_cons_self (rest : List (ι × MaterialAction)) :
    ownSteps i ((i, a) :: rest) = (i, a) :: ownSteps i rest :=
  List.filter_cons_of_pos (decide_eq_true rfl)

theorem ownSteps_cons_of_ne (rest : List (ι × MaterialAction)) (hne : i ≠ e.1) :
    ownSteps i (e :: rest) = ownSteps i rest :=
  List.filter_cons_of_neg (by simp [Ne.symm hne])

theorem ownSteps_concat_self (front : List (ι × MaterialAction)) :
    ownSteps i (front ++ [(i, a)]) = ownSteps i front ++ [(i, a)] := by
  simp [ownSteps]

theorem ownSteps_concat_of_ne (front : List (ι × MaterialAction)) (hne : i ≠ e.1) :
    ownSteps i (front ++ [e]) = ownSteps i front := by
  simp [ownSteps, Ne.symm hne]

theorem id_run (s : Scene ι) (steps : List (ι × MaterialAction)) (i : ι) :
    ((s.run steps).materials i).id = (s.materials i).id := by
  induction steps using List.reverseRecOn with
  | nil => rfl
  | append_singleton front e ih =>
    obtain ⟨j, a⟩ := e
    rw [run_concat, ← ih]
    by_cases hi : i = j
    · subst hi
      rw [material_step_self, id_act]
    · rw [material_step_of_ne hi]

theorem moves_run (s : Scene ι) (steps : List (ι × MaterialAction)) :
    Holdings.Moves (fun _ => True) s.holdings (s.run steps).holdings := by
  induction steps generalizing s with
  | nil => exact .refl
  | cons e rest ih => exact ((s.moves_step e).mono fun _ _ => trivial).trans (ih (s.step e))

/-- Numbers that count up are fresh all along. -/
theorem fresh_run_numbered (paths : ι → String) (rejecting : Bool)
    (steps : List (ι × MaterialAction)) :
    ((start paths (.opened rejecting .created)).run steps).sink.Fresh :=
  NetworkSink.fresh_of_numbered (moves_run _ steps).supply_eq

variable {paths : ι → String} {rejecting : Bool} {supply : Nat → NetworkId}

theorem owned_run (hfresh : ((start paths (.opened rejecting supply)).run steps).sink.Fresh) :
    ((start paths (.opened rejecting supply)).run steps).holdings.Owned :=
  owned_start.moves (moves_run _ steps) hfresh

theorem fresh_of_step (hfresh : (s.step e).sink.Fresh) : s.sink.Fresh :=
  (s.moves_step e).fresh hfresh

theorem owned_step (howned : s.holdings.Owned) (hfresh : (s.step e).sink.Fresh) :
    (s.step e).holdings.Owned :=
  howned.moves (s.moves_step e) hfresh

/-! ## What the sink has for a material after a step -/

theorem held_step_of_ne (howned : s.holdings.Owned) (hfresh : (s.step e).sink.Fresh)
    (hne : i ≠ e.1) (kind : NetworkKind) :
    (s.step e).holdings.slot (i, kind) = s.holdings.slot (i, kind) ∧
      (s.step e).holdings.held (i, kind) = s.holdings.held (i, kind) :=
  (s.moves_step e).held_of_not_owner howned hfresh hne

/-- Nothing is left of a material that only releases what it has. -/
theorem held_step_of_released {report : SyncReport}
    (hact : s.act (i, a) = (s.atStart i report).releaseAll) (howned : s.holdings.Owned)
    (hfresh : (s.step (i, a)).sink.Fresh) : (s.step (i, a)).holdings.held (i, kind) = none := by
  have hend : (s.atStart i report).releaseAll.sink.Fresh := hact ▸ hfresh
  rw [holdings_step, hact]
  exact (Holdings.held_releaseAll (owned_atStart howned) hend).trans (if_neg List.not_mem_nil)

theorem held_afterTerminals (howned : s.holdings.Owned)
    (hfresh : (s.afterTerminals i resource registry settings).sink.Fresh) :
    (s.holdings.during i (s.afterTerminals i resource registry settings)).held (i, kind) =
      (settings.feeds registry (s.materials i).id resource kind).foldl
        (kind.recommit s.sink.rejecting) (s.holdings.held (i, kind)) := by
  refine (Holdings.held_foldl_terminal _ (owned_atStart howned) hfresh).trans ?_
  rw [during_atStart]
  rfl

/-- After a sync, the sink has for the material what the terminals of the filtered network made of
what it had before, one after the other, and nothing where no terminal feeds the network. -/
theorem held_step_sync (howned : s.holdings.Owned)
    (hfresh : (s.step (i, .sync (some resource) registry settings)).sink.Fresh)
    (kind : NetworkKind) :
    (s.step (i, .sync (some resource) registry settings)).holdings.held (i, kind) =
      if settings.feeds registry (s.materials i).id resource kind = [] then none
      else
        (settings.feeds registry (s.materials i).id resource kind).foldl
          (kind.recommit s.sink.rejecting) (s.holdings.held (i, kind)) := by
  have hterminals := s.moves_afterTerminals i resource registry settings
  have hmid := (s.holdings.moves_releaseAll i _).fresh hfresh
  rw [holdings_step]
  refine (Holdings.held_releaseAll (howned.moves hterminals hmid) hfresh).trans ?_
  by_cases hfeeds : settings.feeds registry (s.materials i).id resource kind = []
  · rw [if_pos hfeeds, if_neg fun hfed => mem_fed_afterTerminals.1 hfed hfeeds]
  · rw [if_neg hfeeds, if_pos (mem_fed_afterTerminals.2 hfeeds), held_afterTerminals howned hmid]

/-- A sync keeps the id of a network that is there and fed. -/
theorem slot_step_sync (hfed : settings.feeds registry (s.materials i).id resource kind ≠ [])
    (hvalid : (s.holdings.slot (i, kind)).isValid = true) :
    (s.step (i, .sync (some resource) registry settings)).holdings.slot (i, kind) =
      s.holdings.slot (i, kind) := by
  rw [holdings_step, Holdings.slot_put_self]
  refine (SyncState.slot_releaseAll_of_mem (mem_fed_afterTerminals.2 hfed)).trans ?_
  exact SyncState.slot_foldl_terminal_of_valid _ hvalid

end Scene

/-! ## Two materials -/

/-- A chain with terminals that lead to its nodes. -/
def sampleResource (terminals : List (String × String)) : MaterialNetwork :=
  { sampleChain with terminals := .ofList (terminals.map fun e => (e.1, ⟨e.2, "out"⟩)) }

def sampleSettings : SyncSettings := ⟨sampleCatalog.sourceTypes, [], sampleCatalog.isImage⟩

def sampleSync (terminals : List (String × String)) : MaterialAction :=
  .sync (some (sampleResource terminals)) sampleCatalog.registry sampleSettings

/-- Three networks are created, the last one is modified, and the other two are deleted. -/
def sampleSteps : List (Bool × MaterialAction) :=
  [(true, sampleSync [("surface", "R"), ("displacement", "B")]),
    (false, sampleSync [("volume", "B"), ("surface", "R")]), (true, .finalize)]

end ShadingGraph
