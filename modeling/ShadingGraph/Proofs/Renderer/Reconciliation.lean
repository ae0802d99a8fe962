import ShadingGraph.Proofs.Renderer.Scene

/-!
# What a sync leaves behind

Whatever happened before, a sync brings the networks of its material in line with the terminals of
the filtered resource that convert, and leaves every other network of the sink alone.

## Main definitions

- `Reconciled` — the network of a kind is what the terminals that feed it ask for

## Main results

- `NetworkKind.foldl_recommit_some`, `NetworkKind.foldl_recommit_none` — a network after some
  commits
- `Scene.network?_step_of_live` — the networks of other materials are left alone
- `Scene.sync_postcondition` — what holds after a sync
-/

namespace ShadingGraph

/-! ## Commits one after the other -/

theorem CommittedNetwork.revision_replaceNodes {n : CommittedNetwork} {nodes : List ShadingNode}
    (h : n.revision + 1 < UInt32.size) : (n.replaceNodes nodes).revision = n.revision + 1 := by
  have htoNat : (n.modifications + 1).toNat = (n.modifications.toNat + 1) % 2 ^ 32 :=
    UInt32.toNat_add n.modifications 1
  exact htoNat.trans (Nat.mod_eq_of_lt h)

/-- Commits to a network that is there keep its kind. The last one counts for the nodes, and each
one for the revision. -/
theorem NetworkKind.foldl_recommit_some (kind : NetworkKind) (rejecting : Bool)
    (before : CommittedNetwork) (feeds : List (List ShadingNode)) :
    ∃ n, feeds.foldl (kind.recommit rejecting) (some before) = some n ∧ n.kind = before.kind ∧
      n.nodes = feeds.getLast?.getD before.nodes ∧
      (before.revision + feeds.length < UInt32.size →
        n.revision = before.revision + feeds.length) := by
  induction feeds using List.reverseRecOn with
  | nil => exact ⟨before, rfl, rfl, rfl, fun _ => rfl⟩
  | append_singleton front nodes ih =>
    obtain ⟨n, hn, hkind, -, hrevision⟩ := ih
    refine ⟨n.replaceNodes nodes, ?_, hkind, ?_, fun hfits => ?_⟩
    · rw [List.foldl_append, hn]
      rfl
    · rw [List.getLast?_concat]
      rfl
    · rw [List.length_append, List.length_singleton] at hfits ⊢
      have hfront : n.revision = before.revision + front.length := hrevision (by omega)
      rw [CommittedNetwork.revision_replaceNodes (by omega), hfront, Nat.add_assoc]

/-- Where no network is there, the first commit creates it. -/
theorem NetworkKind.foldl_recommit_none (kind : NetworkKind) {feeds : List (List ShadingNode)}
    {nodes : List ShadingNode} (hlast : feeds.getLast? = some nodes) :
    ∃ n, feeds.foldl (kind.recommit false) none = some n ∧ n.kind = kind ∧ n.nodes = nodes ∧
      (feeds.length - 1 < UInt32.size → n.revision = feeds.length - 1) := by
  cases feeds with
  | nil => cases hlast
  | cons first rest =>
    obtain ⟨n, hn, hkind, hnodes, hrevision⟩ :=
      kind.foldl_recommit_some false ⟨kind, first, 0⟩ rest
    have hstart : (⟨kind, first, 0⟩ : CommittedNetwork).revision = 0 := rfl
    rw [List.getLast?_cons, Option.some.injEq] at hlast
    rw [hstart, Nat.zero_add] at hrevision
    exact ⟨n, hn, hkind, hnodes.trans hlast, hrevision⟩

/-! ## The networks of the material -/

/-- The network of a kind is what the terminals that feed it ask for. They come with what they
convert to, and the sink and the id of the network are given before and after the sync. -/
structure Reconciled (feeds : List (List ShadingNode)) (kind : NetworkKind)
    (sink sink' : NetworkSink) (id id' : NetworkId) : Prop where
  /-- Without such terminals there is no network, and the old one is gone. -/
  removed : feeds = [] → id' = .invalid ∧ sink'.network? id = none
  /-- A network that is there is not replaced by another one. -/
  kept : feeds ≠ [] → id.isValid = true → id' = id
  /-- The last terminal counts for the nodes, and each commit but the creation for the revision. -/
  committed : ∀ nodes, feeds.getLast? = some nodes →
    id'.isValid = true ∧
      ∃ n, sink'.network? id' = some n ∧ n.kind = kind ∧ n.nodes = nodes ∧
        (id.isValid = true → ∃ before, sink.network? id = some before ∧
          (before.revision + feeds.length < UInt32.size →
            n.revision = before.revision + feeds.length)) ∧
        (id = .invalid → feeds.length - 1 < UInt32.size → n.revision = feeds.length - 1)

namespace Scene

variable {ι : Type} [DecidableEq ι] {s : Scene ι} {i : ι} {e : ι × MaterialAction}
  {kind : NetworkKind} {id : NetworkId} {resource : MaterialNetwork} {registry : ShaderRegistry}
  {settings : SyncSettings}

theorem network?_step_of_released (howned : s.holdings.Owned) (hfresh : (s.step e).sink.Fresh)
    (hreleased : (s.step e).holdings.slot (e.1, kind) = .invalid) :
    (s.step e).sink.network? (s.holdings.slot (e.1, kind)) = none := by
  rw [← NetworkSink.not_live_iff]
  intro hlive
  have howned' := owned_step howned hfresh
  have hvalid := howned'.isValid_of_live hfresh hlive
  obtain ⟨p, hp⟩ := howned'.held_of_live _ hlive
  -- Whoever held it now would have held it before, and two places would have shared it.
  have hbefore : (s.step e).holdings.slot p = s.holdings.slot p := by
    rcases (s.moves_step e).slot_cases hfresh p with hsame | hinvalid | hnew
    · exact hsame
    · rw [← hp, hinvalid] at hvalid
      cases hvalid
    · exact absurd (hp ▸ howned.issued_of_valid hvalid) hnew
  have hplace := howned.apart _ p hvalid (hp.symm.trans hbefore)
  rw [← hplace, hreleased] at hp
  rw [← hp] at hvalid
  cases hvalid

theorem reconciled_step (howned : s.holdings.Owned) (haccepts : s.sink.rejecting = false)
    (hfresh : (s.step (i, .sync (some resource) registry settings)).sink.Fresh)
    (kind : NetworkKind) :
    Reconciled (settings.feeds registry (s.materials i).id resource kind) kind s.sink
      (s.step (i, .sync (some resource) registry settings)).sink (s.holdings.slot (i, kind))
      ((s.step (i, .sync (some resource) registry settings)).holdings.slot (i, kind)) := by
  have hbefore := fresh_of_step hfresh
  have howned' := owned_step howned hfresh
  have hheld := held_step_sync howned hfresh kind
  constructor
  · intro hnone
    rw [if_pos hnone] at hheld
    have hslot := (howned'.held_eq_none_iff hfresh).1 hheld
    exact ⟨hslot, network?_step_of_released howned hfresh hslot⟩
  · exact slot_step_sync
  · intro nodes hlast
    have hfed : settings.feeds registry (s.materials i).id resource kind ≠ [] := by
      intro hnone
      rw [hnone] at hlast
      cases hlast
    rw [if_neg hfed, haccepts] at hheld
    cases hslot : (s.holdings.slot (i, kind)).isValid with
    | true =>
      -- The network was there, so every terminal modifies it.
      obtain ⟨before, hbefore, hkind⟩ := howned.live_of_valid (i, kind) hslot
      obtain ⟨n, hn, hkind', hnodes, hrevision⟩ := kind.foldl_recommit_some false before
        (settings.feeds registry (s.materials i).id resource kind)
      rw [hbefore, hn] at hheld
      rw [hlast] at hnodes
      refine ⟨howned'.isValid_of_live hfresh ⟨n, hheld⟩, n, hheld, hkind'.trans hkind, hnodes,
        fun _ => ⟨before, hbefore, hrevision⟩, fun hinvalid => ?_⟩
      rw [hinvalid] at hslot
      cases hslot
    | false =>
      -- The first terminal creates the network, and the others modify it.
      have hfree := NetworkId.isValid_eq_false_iff.1 hslot
      obtain ⟨n, hn, hkind, hnodes, hrevision⟩ := kind.foldl_recommit_none hlast
      rw [(howned.held_eq_none_iff hbefore).2 hfree, hn] at hheld
      exact ⟨howned'.isValid_of_live hfresh ⟨n, hheld⟩, n, hheld, hkind, hnodes,
        fun hvalid => (Bool.false_ne_true hvalid).elim, fun _ => hrevision⟩

/-! ## The other networks -/

/-- A step leaves a network alone that its material does not hold. -/
theorem network?_step_of_live (howned : s.holdings.Owned) (hfresh : (s.step e).sink.Fresh)
    (hlive : s.sink.Live id) (hother : ∀ kind, id ≠ s.holdings.slot (e.1, kind)) :
    (s.step e).sink.network? id = s.sink.network? id := by
  obtain ⟨⟨j, kind⟩, rfl⟩ := howned.held_of_live id hlive
  have hj : j ≠ e.1 := by
    rintro rfl
    exact hother kind rfl
  obtain ⟨hslot, hheld⟩ := held_step_of_ne howned hfresh hj kind
  rw [Holdings.held, hslot] at hheld
  exact hheld

/-- What is there after a step and not held by its material was there before. -/
theorem network?_of_live_step (howned : s.holdings.Owned) (hfresh : (s.step e).sink.Fresh)
    (hlive : (s.step e).sink.Live id)
    (hother : ∀ kind, id ≠ (s.step e).holdings.slot (e.1, kind)) :
    (s.step e).sink.network? id = s.sink.network? id := by
  have howned' := owned_step howned hfresh
  obtain ⟨⟨j, kind⟩, hheld_by⟩ := howned'.held_of_live id hlive
  have hj : j ≠ e.1 := by
    rintro rfl
    exact hother kind hheld_by.symm
  obtain ⟨hslot, hheld⟩ := held_step_of_ne howned hfresh hj kind
  rw [Holdings.held, Holdings.held, hslot] at hheld
  rw [← hheld_by, hslot]
  exact hheld

/-! ## After a sync -/

variable {paths : ι → String} {supply : Nat → NetworkId} {steps : List (ι × MaterialAction)}

/-- After any run on a sink that accepts creations, a sync notes the filtered network, and brings
the network of either kind in line with it. Every other network stays as it is, and none is added.
-/
theorem sync_postcondition
    (hfresh : (((start paths (.opened false supply)).run steps).step
      (i, .sync (some resource) registry settings)).sink.Fresh) :
    let s := (start paths (.opened false supply)).run steps
    let s' := s.step (i, .sync (some resource) registry settings)
    (s'.materials i).network = settings.filtered registry (paths i) resource ∧
      (∀ kind, Reconciled (settings.feeds registry (paths i) resource kind) kind s.sink s'.sink
        ((s.materials i).slot kind) ((s'.materials i).slot kind)) ∧
      (∀ id, s.sink.Live id → (∀ kind, id ≠ (s.materials i).slot kind) →
        s'.sink.network? id = s.sink.network? id) ∧
      ∀ id, s'.sink.Live id → (∀ kind, id ≠ (s'.materials i).slot kind) →
        s'.sink.network? id = s.sink.network? id := by
  intro s s'
  have howned : s.holdings.Owned := owned_run (fresh_of_step hfresh)
  have haccepts : s.sink.rejecting = false := (moves_run _ steps).rejecting_eq
  have hid : (s.materials i).id = paths i := id_run _ steps i
  rw [← hid]
  refine ⟨congrArg Material.network material_step_self, reconciled_step howned haccepts hfresh,
    fun id => ?_, fun id => ?_⟩
  · exact network?_step_of_live howned hfresh
  · exact network?_of_live_step howned hfresh

/-- The surface and volume network is modified twice, and the displacement network is deleted since
its terminal leads nowhere. -/
theorem sync_postcondition_of_sampleSteps :
    let s := (start (fun _ => "/M") (.opened false .created)).run (sampleSteps.take 2)
    let s' := s.step
      (true, sampleSync [("surface", "B"), ("displacement", "X"), ("volume", "R")])
    s'.sink.Fresh ∧ (s'.materials true).slot .material = .created 0 ∧
      (∃ n, s'.sink.network? (.created 0) = some n ∧
        n.nodes = [surfaceAt "B" [], surfaceAt "R" [("in", .reference .float "B:out")]] ∧
        n.revision = 2) ∧
      (s'.materials true).slot .displacement = .invalid ∧ s'.sink.network? (.created 1) = none := by
  intro s s'
  have hrun : s' = (start (fun _ => "/M") (.opened false .created)).run
      (sampleSteps.take 2 ++
        [(true, sampleSync [("surface", "B"), ("displacement", "X"), ("volume", "R")])]) := rfl
  have hfresh : s'.sink.Fresh := hrun ▸ fresh_run_numbered _ _ _
  have hsurface := (sync_postcondition hfresh).2.1 .material
  have hdisplacement := (sync_postcondition hfresh).2.1 .displacement
  have hslot : (((start (fun _ => "/M") (.opened false .created)).run
      (sampleSteps.take 2)).materials true).slot .material = .created 0 := by cbv
  have hslot' : (((start (fun _ => "/M") (.opened false .created)).run
      (sampleSteps.take 2)).materials true).slot .displacement = .created 1 := by cbv
  have hfeeds : sampleSettings.feeds sampleCatalog.registry "/M"
      (sampleResource [("surface", "B"), ("displacement", "X"), ("volume", "R")]) .material =
        [[surfaceAt "B" []],
          [surfaceAt "B" [], surfaceAt "R" [("in", .reference .float "B:out")]]] := by cbv
  have hfeeds' : sampleSettings.feeds sampleCatalog.registry "/M"
      (sampleResource [("surface", "B"), ("displacement", "X"), ("volume", "R")])
        .displacement = [] := by cbv
  have hbefore : ((start (fun _ => "/M") (.opened false .created)).run
      (sampleSteps.take 2)).sink.network? (.created 0) =
        some ⟨.material, [surfaceAt "B" [], surfaceAt "R" [("in", .reference .float "B:out")]],
          0⟩ := by cbv
  rw [hslot, hfeeds] at hsurface
  rw [hslot', hfeeds'] at hdisplacement
  obtain ⟨hnone, hgone⟩ := hdisplacement.removed rfl
  have hkept := hsurface.kept (by decide) rfl
  obtain ⟨-, n, hn, -, hnodes, hrevision, -⟩ := hsurface.committed _ rfl
  obtain ⟨before, hold, hcount⟩ := hrevision rfl
  cases hbefore.symm.trans hold
  rw [hkept] at hn
  exact ⟨hfresh, hkept, ⟨n, hn, hnodes, hcount (by decide)⟩, hnone, hgone⟩

end Scene

end ShadingGraph
