import ShadingGraph.Proofs.Renderer.Scene

/-!
# Who owns the networks of a sink

However the materials of a scene take turns, each live network of their sink is held by one
material, as the one of its networks that the kind says. Nothing is left behind once all are
finalized.

## Main results

- `Scene.slot_run_of_finalized` — a material that was finalized last holds nothing
- `Scene.ownership_of_run` — live networks are exactly the valid ids that materials hold
-/

namespace ShadingGraph

namespace Scene

variable {ι : Type} [DecidableEq ι] {paths : ι → String} {rejecting : Bool}
  {supply : Nat → NetworkId} {steps : List (ι × MaterialAction)} {i : ι} {kind : NetworkKind}

/-- A material holds nothing as long as it has done nothing, and after it was finalized. -/
theorem slot_run_of_finalized
    (hfresh : ((start paths (.opened rejecting supply)).run steps).sink.Fresh)
    (hlast : ∀ e, (ownSteps i steps).getLast? = some e → e.2 = .finalize) :
    ((start paths (.opened rejecting supply)).run steps).holdings.slot (i, kind) = .invalid := by
  induction steps using List.reverseRecOn with
  | nil => exact slot_start
  | append_singleton front e ih =>
    have howned' := owned_run hfresh
    rw [run_concat] at hfresh howned' ⊢
    have hfront := fresh_of_step hfresh
    have howned := owned_run hfront
    obtain ⟨j, a⟩ := e
    by_cases hj : i = j
    · subst hj
      -- The last step is its own, so it is the finalization.
      rw [ownSteps_concat_self] at hlast
      obtain rfl := hlast (i, a) List.getLast?_concat
      exact (howned'.held_eq_none_iff hfresh).1 (held_step_of_released rfl howned hfresh)
    · rw [ownSteps_concat_of_ne front hj] at hlast
      exact (held_step_of_ne howned hfresh hj kind).1.trans (ih hfront hlast)

/-- As long as the ids handed out are fresh, after any steps of any materials: the live ids are the
valid ones that materials hold, each is held by one material in one of its two places, and the
network has the kind of that place. Once every material that did something was finalized, there is
no network. -/
theorem ownership_of_run
    (hfresh : ((start paths (.opened rejecting supply)).run steps).sink.Fresh) :
    let s := (start paths (.opened rejecting supply)).run steps
    (∀ id, s.sink.Live id ↔ id.isValid = true ∧ ∃ i kind, (s.materials i).slot kind = id) ∧
      (∀ id, s.sink.Live id → ∃! p : ι × NetworkKind, (s.materials p.1).slot p.2 = id) ∧
      (∀ i kind n, s.sink.network? ((s.materials i).slot kind) = some n → n.kind = kind) ∧
      ((∀ i e, (ownSteps i steps).getLast? = some e → e.2 = .finalize) →
        s.sink.networks.entries = []) := by
  intro s
  have howned : s.holdings.Owned := owned_run hfresh
  refine ⟨fun id => ⟨fun hlive => ?_, ?_⟩, fun id hlive => ?_, fun i kind n hn => ?_,
    fun hlast => ?_⟩
  · obtain ⟨⟨i, kind⟩, hslot⟩ := howned.held_of_live id hlive
    exact ⟨howned.isValid_of_live hfresh hlive, i, kind, hslot⟩
  · rintro ⟨hvalid, i, kind, rfl⟩
    obtain ⟨n, hn, -⟩ := howned.live_of_valid (i, kind) hvalid
    exact ⟨n, hn⟩
  · obtain ⟨p, hslot⟩ := howned.held_of_live id hlive
    have hvalid : (s.holdings.slot p).isValid = true :=
      hslot ▸ howned.isValid_of_live hfresh hlive
    exact ⟨p, hslot, fun q hq => (howned.apart p q hvalid (hslot.trans hq.symm)).symm⟩
  · have hvalid := howned.isValid_of_live hfresh ⟨n, hn⟩
    obtain ⟨n', hn', hkind⟩ := howned.live_of_valid (i, kind) hvalid
    rwa [Option.some.inj (hn.symm.trans hn')]
  · -- A live network would be held by a material, and every one has let go of its networks.
    refine NetworkSink.entries_eq_nil_of_not_live fun id hlive => ?_
    have hvalid := howned.isValid_of_live hfresh hlive
    obtain ⟨⟨i, kind⟩, rfl⟩ := howned.held_of_live id hlive
    rw [slot_run_of_finalized hfresh (hlast i)] at hvalid
    cases hvalid

/-! ## Two materials -/

theorem ownership_of_sampleSteps :
    let s := (start (fun _ => "/M") (.opened false .created)).run sampleSteps
    let s' := (start (fun _ => "/M") (.opened false .created)).run
      (sampleSteps ++ [(false, .finalize)])
    (s.sink.Fresh ∧ s.sink.Live (.created 2) ∧
      ∃! p : Bool × NetworkKind, (s.materials p.1).slot p.2 = .created 2) ∧
      s'.sink.Fresh ∧ s'.sink.networks.entries = [] := by
  have hfresh := fresh_run_numbered (fun _ => "/M") false sampleSteps
  have hfresh' := fresh_run_numbered (fun _ => "/M") false (sampleSteps ++ [(false, .finalize)])
  have hlive : ((start (fun _ => "/M") (.opened false .created)).run sampleSteps).sink.Live
      (.created 2) :=
    ⟨⟨.material, [surfaceAt "B" [], surfaceAt "R" [("in", .reference .float "B:out")]], 1⟩, by cbv⟩
  have hunique := (ownership_of_run hfresh).2.1 (.created 2) hlive
  have hempty := (ownership_of_run hfresh').2.2.2 fun i e hlast => by
    cases i with
    | true => exact congrArg Prod.snd (Option.some.inj hlast).symm
    | false => exact congrArg Prod.snd (Option.some.inj hlast).symm
  exact ⟨⟨hfresh, hlive, hunique⟩, hfresh', hempty⟩

end Scene

end ShadingGraph
