import Mathlib.Logic.Relator
import ShadingGraph.Proofs.Renderer.Scene

/-!
# Materials do not interfere

What a material reports, and what the sink has for it, does not depend on what other materials do on
the same sink. Only the ids differ, one to one.

## Main definitions

- `SyncState.Alike` — two syncs under way that differ in nothing but ids
- `Scene.Observation`, `Scene.observations` — what shows of a material after each of its steps
- `Scene.Mirrors` — a material stands alike in two scenes

## Main results

- `SyncState.Alike.terminal`, `SyncState.Alike.releaseAll` — syncs that are alike go on alike
- `Scene.Mirrors.step_self`, `Scene.Mirrors.step_of_ne` — steps keep two scenes alike for a material
- `Scene.isolation_of_run` — a run with other materials and one without show the same
-/

namespace ShadingGraph

/-- Relations that are one to one and have nothing in common are one to one together. -/
theorem biUnique_or {α β : Type} {R S : α → β → Prop} (hR : Relator.BiUnique R)
    (hS : Relator.BiUnique S) (hright : ∀ a b c, R a c → ¬ S b c)
    (hleft : ∀ a b c, R a b → ¬ S a c) : Relator.BiUnique fun a b => R a b ∨ S a b := by
  constructor
  · rintro a b c (ha | ha) (hb | hb)
    · exact hR.1 ha hb
    · exact absurd hb (hright a b c ha)
    · exact absurd ha (hright b a c hb)
    · exact hS.1 ha hb
  · rintro a b c (hb | hb) (hc | hc)
    · exact hR.2 hb hc
    · exact absurd hc (hleft a b c hb)
    · exact absurd hb (hleft a c b hc)
    · exact hS.2 hb hc

variable {ι : Type}

theorem Holdings.isValid_slot_eq {h g : Holdings ι} {p : ι × NetworkKind}
    (hheld : h.held p = g.held p) (hh : h.Owned) (hg : g.Owned) (hfresh : h.sink.Fresh)
    (hfresh' : g.sink.Fresh) : (h.slot p).isValid = (g.slot p).isValid := by
  rw [hh.isValid_eq hfresh, hg.isValid_eq hfresh', hheld]

/-! ## Ids that correspond -/

namespace Scene

variable {s t s' t' : Scene ι} {i : ι} {paths : ι → String} {rejecting : Bool}
  {supply supply' : Nat → NetworkId}

/-- A material stands alike in two scenes, and so far its ids correspond one to one. -/
structure Mirrors (R : NetworkId → NetworkId → Prop) (i : ι) (s t : Scene ι) : Prop where
  id : (s.materials i).id = (t.materials i).id
  rejecting : s.sink.rejecting = t.sink.rejecting
  slot : ∀ kind, R (s.holdings.slot (i, kind)) (t.holdings.slot (i, kind))
  held : ∀ kind, s.holdings.held (i, kind) = t.holdings.held (i, kind)
  biUnique : Relator.BiUnique R
  invalid : R .invalid .invalid
  issued : ∀ x y, R x y → x = .invalid ∧ y = .invalid ∨ x ∈ s.sink.issued ∧ y ∈ t.sink.issued

theorem mirrors_start (i : ι) :
    Mirrors (fun x y => x = .invalid ∧ y = .invalid) i (start paths (.opened rejecting supply))
      (start paths (.opened rejecting supply')) where
  id := rfl
  rejecting := rfl
  slot _ := ⟨slot_start, slot_start⟩
  held _ := rfl
  biUnique := ⟨fun _ _ _ ha hb => ha.1.trans hb.1.symm, fun _ _ _ hb hc => hb.2.trans hc.2.symm⟩
  invalid := ⟨rfl, rfl⟩
  issued _ _ := Or.inl

/-- The ids that a step hands out to a material, side by side. -/
def Created (i : ι) (s t s' t' : Scene ι) (x y : NetworkId) : Prop :=
  ∃ kind, x = s'.holdings.slot (i, kind) ∧ y = t'.holdings.slot (i, kind) ∧
    x.isValid = true ∧ y.isValid = true ∧ x ∉ s.sink.issued ∧ y ∉ t.sink.issued

theorem biUnique_created (howned : s'.holdings.Owned) (howned' : t'.holdings.Owned) :
    Relator.BiUnique (Created i s t s' t') := by
  constructor
  · rintro _ _ _ ⟨kind, rfl, rfl, -, hvalid, -⟩ ⟨kind', rfl, hsame, -⟩
    rw [(Prod.mk.inj (howned'.apart _ _ hvalid hsame)).2]
  · rintro _ _ _ ⟨kind, rfl, rfl, hvalid, -⟩ ⟨kind', hsame, rfl, -⟩
    rw [(Prod.mk.inj (howned.apart _ _ hvalid hsame)).2]

end Scene

variable [DecidableEq ι]

/-! ## Syncs that differ in nothing but ids -/

/-- Two syncs of one owner under way, each among holdings of its own, that differ in nothing but the
ids of the networks. -/
structure SyncState.Alike (h g : Holdings ι) (i : ι) (st ut : SyncState) : Prop where
  id : st.material.id = ut.material.id
  rejecting : st.sink.rejecting = ut.sink.rejecting
  report : st.report = ut.report
  fed : st.fed = ut.fed
  held : ∀ kind, (h.during i st).held (i, kind) = (g.during i ut).held (i, kind)

namespace SyncState.Alike

variable {h g : Holdings ι} {i : ι} {st ut : SyncState} {c : ShaderCatalog} {net : MaterialNetwork}
  {e : String × Connection} {kind : NetworkKind}

theorem isValid_eq (hheld : (h.during i st).held (i, kind) = (g.during i ut).held (i, kind))
    (hst : (h.during i st).Owned) (hut : (g.during i ut).Owned) (hfresh : st.sink.Fresh)
    (hfresh' : ut.sink.Fresh) :
    (st.material.slot kind).isValid = (ut.material.slot kind).isValid := by
  have hsame := Holdings.isValid_slot_eq hheld hst hut hfresh hfresh'
  rwa [Holdings.slot_put_self, Holdings.slot_put_self] at hsame

theorem terminal (halike : Alike h g i st ut) (hst : (h.during i st).Owned)
    (hut : (g.during i ut).Owned) (hfresh : (st.terminal c net e).sink.Fresh)
    (hfresh' : (ut.terminal c net e).sink.Fresh) :
    Alike h g i (st.terminal c net e) (ut.terminal c net e) := by
  have hmoves := h.moves_terminal i c net st e
  have hmoves' := g.moves_terminal i c net ut e
  have hheld : ∀ kind, (h.during i (st.terminal c net e)).held (i, kind) =
      (g.during i (ut.terminal c net e)).held (i, kind) := by
    intro kind
    rw [Holdings.held_terminal hst hfresh, Holdings.held_terminal hut hfresh', halike.rejecting,
      halike.held]
  have hvalid := fun kind => isValid_eq (hheld kind) (hst.moves hmoves hfresh)
    (hut.moves hmoves' hfresh') hfresh hfresh'
  have hnoted : (st.terminal c net e).report = (ut.terminal c net e).report ∧
      (st.terminal c net e).fed = (ut.terminal c net e).fed := by
    cases hconvert : c.convert net e.2.node with
    | error cause =>
      rw [terminal_of_error hconvert, terminal_of_error hconvert, halike.report, halike.id]
      exact ⟨rfl, halike.fed⟩
    | ok nodes =>
      cases hkind : terminalKind? e.1 with
      | none =>
        rw [terminal_of_idle hconvert hkind, terminal_of_idle hconvert hkind]
        exact ⟨halike.report, halike.fed⟩
      | some kind =>
        -- Whether the commit succeeds shows in the id, and so in what the sink has.
        have hsame := hvalid kind
        rw [terminal_of_kind hconvert hkind, terminal_of_kind hconvert hkind] at hsame ⊢
        simp only [hsame, halike.report, halike.id, halike.fed, and_self]
  have hid : (st.terminal c net e).material.id = (ut.terminal c net e).material.id := by
    rw [id_terminal, id_terminal, halike.id]
  have hrejecting := hmoves.rejecting_eq.trans (halike.rejecting.trans hmoves'.rejecting_eq.symm)
  exact ⟨hid, hrejecting, hnoted.1, hnoted.2, hheld⟩

theorem foldl_terminal (entries : List (String × Connection)) (halike : Alike h g i st ut)
    (hst : (h.during i st).Owned) (hut : (g.during i ut).Owned)
    (hfresh : (entries.foldl (SyncState.terminal c net) st).sink.Fresh)
    (hfresh' : (entries.foldl (SyncState.terminal c net) ut).sink.Fresh) :
    Alike h g i (entries.foldl (SyncState.terminal c net) st)
      (entries.foldl (SyncState.terminal c net) ut) := by
  induction entries generalizing st ut with
  | nil => exact halike
  | cons e rest ih =>
    have hmid := (h.moves_foldl_terminal i c net rest _).fresh hfresh
    have hmid' := (g.moves_foldl_terminal i c net rest _).fresh hfresh'
    exact ih (halike.terminal hst hut hmid hmid') (hst.moves (h.moves_terminal i c net st e) hmid)
      (hut.moves (g.moves_terminal i c net ut e) hmid') hfresh hfresh'

theorem releaseUnfed (halike : Alike h g i st ut) (hst : (h.during i st).Owned)
    (hut : (g.during i ut).Owned) (hfresh : (st.releaseUnfed kind).sink.Fresh)
    (hfresh' : (ut.releaseUnfed kind).sink.Fresh) :
    Alike h g i (st.releaseUnfed kind) (ut.releaseUnfed kind) := by
  have hmove := h.move_releaseUnfed i st kind
  have hmove' := g.move_releaseUnfed i ut kind
  have hvalid := isValid_eq (halike.held kind) hst hut
    (hfresh.mono hmove.issued_prefix_issued) (hfresh'.mono hmove'.issued_prefix_issued)
  constructor
  · rw [id_releaseUnfed, id_releaseUnfed, halike.id]
  · exact hmove.rejecting_eq.trans (halike.rejecting.trans hmove'.rejecting_eq.symm)
  · by_cases hfed : kind ∈ st.fed
    · rw [releaseUnfed_of_mem hfed, releaseUnfed_of_mem (halike.fed ▸ hfed), halike.report]
    · rw [releaseUnfed_of_not_mem hfed, releaseUnfed_of_not_mem (halike.fed ▸ hfed)]
      simp only [hvalid, halike.report]
  · rw [fed_releaseUnfed, fed_releaseUnfed, halike.fed]
  · intro kind'
    rw [Holdings.held_releaseUnfed hst hfresh, Holdings.held_releaseUnfed hut hfresh', halike.held,
      halike.fed]

theorem releaseAll (halike : Alike h g i st ut) (hst : (h.during i st).Owned)
    (hut : (g.during i ut).Owned) (hfresh : st.releaseAll.sink.Fresh)
    (hfresh' : ut.releaseAll.sink.Fresh) : Alike h g i st.releaseAll ut.releaseAll := by
  have hmid :=
    hfresh.mono (h.move_releaseUnfed i (st.releaseUnfed .material) _).issued_prefix_issued
  have hmid' :=
    hfresh'.mono (g.move_releaseUnfed i (ut.releaseUnfed .material) _).issued_prefix_issued
  exact (halike.releaseUnfed hst hut hmid hmid').releaseUnfed
    (hst.move (h.move_releaseUnfed i st .material) hmid)
    (hut.move (g.move_releaseUnfed i ut .material) hmid') hfresh hfresh'

end SyncState.Alike

/-! ## What shows of a material -/

namespace Scene

/-- What shows of a material after one of its steps. -/
structure Observation where
  report : SyncReport
  slot : NetworkKind → NetworkId
  network : NetworkKind → Option CommittedNetwork

def observe (s : Scene ι) (e : ι × MaterialAction) : Observation :=
  { report := (s.act e).report
    slot := fun kind => (s.step e).holdings.slot (e.1, kind)
    network := fun kind => (s.step e).holdings.held (e.1, kind) }

/-- What shows of a material in a run, step for step. -/
def observations (i : ι) (s : Scene ι) : List (ι × MaterialAction) → List Observation
  | [] => []
  | e :: rest =>
    if e.1 = i then s.observe e :: observations i (s.step e) rest
    else observations i (s.step e) rest

/-- Two observations are the same up to a renaming of ids. -/
structure Observation.Same (R : NetworkId → NetworkId → Prop) (o o' : Observation) : Prop where
  report : o.report = o'.report
  slot : ∀ kind, R (o.slot kind) (o'.slot kind)
  network : ∀ kind, o.network kind = o'.network kind

variable {s t : Scene ι} {i : ι} {a : MaterialAction} {kind : NetworkKind}
  {R : NetworkId → NetworkId → Prop}

/-! ## Own steps -/

theorem alike_atStart (hmirrors : Mirrors R i s t) {report report' : SyncReport}
    (hreport : report = report') :
    SyncState.Alike s.holdings t.holdings i (s.atStart i report) (t.atStart i report') where
  id := hmirrors.id
  rejecting := hmirrors.rejecting
  report := hreport
  fed := rfl
  held kind := by
    rw [during_atStart, during_atStart]
    exact hmirrors.held kind

/-- In scenes that are alike for a material, it reports the same and leaves the same behind. -/
theorem alike_act (hmirrors : Mirrors R i s t) (howned : s.holdings.Owned)
    (howned' : t.holdings.Owned) (hfresh : (s.step (i, a)).sink.Fresh)
    (hfresh' : (t.step (i, a)).sink.Fresh) :
    SyncState.Alike s.holdings t.holdings i (s.act (i, a)) (t.act (i, a)) := by
  cases a with
  | finalize =>
    exact (alike_atStart hmirrors rfl).releaseAll (owned_atStart howned) (owned_atStart howned')
      hfresh hfresh'
  | sync resource registry settings =>
    cases resource with
    | none =>
      have hreport : SyncReport.empty.fail (.unexpectedResource (s.materials i).id) =
          SyncReport.empty.fail (.unexpectedResource (t.materials i).id) := by rw [hmirrors.id]
      exact (alike_atStart hmirrors hreport).releaseAll (owned_atStart howned)
        (owned_atStart howned') hfresh hfresh'
    | some resource =>
      have hreport : ∀ problems, (s.materials i).filterReport problems =
          (t.materials i).filterReport problems := fun problems => by
        rw [Material.filterReport, Material.filterReport, hmirrors.id]
      have hmoves := s.moves_afterTerminals i resource registry settings
      have hmoves' := t.moves_afterTerminals i resource registry settings
      have hmid := (s.holdings.moves_releaseAll i _).fresh hfresh
      have hmid' := (t.holdings.moves_releaseAll i _).fresh hfresh'
      have hterminals : SyncState.Alike s.holdings t.holdings i
          (s.afterTerminals i resource registry settings)
          (t.afterTerminals i resource registry settings) := by
        -- The paths are the same, so the filters make the same of the resource.
        have hfresh : (t.afterTerminals i resource registry settings).sink.Fresh := hmid'
        rw [afterTerminals, ← hmirrors.id] at hfresh
        rw [afterTerminals, afterTerminals, ← hmirrors.id]
        exact (alike_atStart hmirrors (hreport _)).foldl_terminal _ (owned_atStart howned)
          (owned_atStart howned') hmid hfresh
      have hreleased := hterminals.releaseAll (howned.moves hmoves hmid)
        (howned'.moves hmoves' hmid') hfresh hfresh'
      -- The network that is noted in the end does not show in the ids.
      exact ⟨hreleased.id, hreleased.rejecting, hreleased.report, hreleased.fed, hreleased.held⟩

theorem slot_step_of_valid (howned : s.holdings.Owned) (hfresh : (s.step (i, a)).sink.Fresh)
    (hvalid : (s.holdings.slot (i, kind)).isValid = true)
    (hvalid' : ((s.step (i, a)).holdings.slot (i, kind)).isValid = true) :
    (s.step (i, a)).holdings.slot (i, kind) = s.holdings.slot (i, kind) := by
  have hheld : (s.step (i, a)).holdings.held (i, kind) ≠ none := fun hnone => by
    rw [((owned_step howned hfresh).held_eq_none_iff hfresh).1 hnone] at hvalid'
    cases hvalid'
  cases a with
  | finalize => exact absurd (held_step_of_released rfl howned hfresh) hheld
  | sync resource registry settings =>
    cases resource with
    | none => exact absurd (held_step_of_released rfl howned hfresh) hheld
    | some resource =>
      refine slot_step_sync (fun hnone => hheld ?_) hvalid
      rw [held_step_sync howned hfresh kind, if_pos hnone]

theorem slot_step_of_free (hfresh : (s.step (i, a)).sink.Fresh)
    (hfree : (s.holdings.slot (i, kind)).isValid = false)
    (hvalid : ((s.step (i, a)).holdings.slot (i, kind)).isValid = true) :
    (s.step (i, a)).holdings.slot (i, kind) ∉ s.sink.issued := by
  rcases (s.moves_step (i, a)).slot_cases hfresh (i, kind) with hsame | hinvalid | hnew
  · rw [hsame, hfree] at hvalid
    cases hvalid
  · rw [hinvalid] at hvalid
    cases hvalid
  · exact hnew

theorem Mirrors.held_step (hmirrors : Mirrors R i s t) (howned : s.holdings.Owned)
    (howned' : t.holdings.Owned) (hfresh : (s.step (i, a)).sink.Fresh)
    (hfresh' : (t.step (i, a)).sink.Fresh) (kind : NetworkKind) :
    (s.step (i, a)).holdings.held (i, kind) = (t.step (i, a)).holdings.held (i, kind) := by
  rw [holdings_step, holdings_step]
  exact (alike_act hmirrors howned howned' hfresh hfresh').held kind

/-- The ids of a material after a step of its correspond already, or were both handed out in it. -/
theorem Mirrors.slot_step (hmirrors : Mirrors R i s t) (howned : s.holdings.Owned)
    (howned' : t.holdings.Owned) (hfresh : (s.step (i, a)).sink.Fresh)
    (hfresh' : (t.step (i, a)).sink.Fresh) (kind : NetworkKind) :
    R ((s.step (i, a)).holdings.slot (i, kind)) ((t.step (i, a)).holdings.slot (i, kind)) ∨
      Created i s t (s.step (i, a)) (t.step (i, a)) ((s.step (i, a)).holdings.slot (i, kind))
        ((t.step (i, a)).holdings.slot (i, kind)) := by
  have hbefore := Holdings.isValid_slot_eq (hmirrors.held kind) howned howned'
    (fresh_of_step hfresh) (fresh_of_step hfresh')
  have hafter := Holdings.isValid_slot_eq
    (hmirrors.held_step howned howned' hfresh hfresh' kind) (owned_step howned hfresh)
    (owned_step howned' hfresh') hfresh hfresh'
  cases hvalid : ((s.step (i, a)).holdings.slot (i, kind)).isValid with
  | false =>
    rw [hvalid, eq_comm] at hafter
    rw [NetworkId.isValid_eq_false_iff.1 hvalid, NetworkId.isValid_eq_false_iff.1 hafter]
    exact Or.inl hmirrors.invalid
  | true =>
    rw [hvalid, eq_comm] at hafter
    cases hold : (s.holdings.slot (i, kind)).isValid with
    | true =>
      rw [hold, eq_comm] at hbefore
      rw [slot_step_of_valid howned hfresh hold hvalid,
        slot_step_of_valid howned' hfresh' hbefore hafter]
      exact Or.inl (hmirrors.slot kind)
    | false =>
      -- Both sinks hand out the id in this step, so it is new to either of them.
      rw [hold, eq_comm] at hbefore
      exact Or.inr ⟨kind, rfl, rfl, hvalid, hafter, slot_step_of_free hfresh hold hvalid,
        slot_step_of_free hfresh' hbefore hafter⟩

theorem Mirrors.step_self (hmirrors : Mirrors R i s t) (howned : s.holdings.Owned)
    (howned' : t.holdings.Owned) (hfresh : (s.step (i, a)).sink.Fresh)
    (hfresh' : (t.step (i, a)).sink.Fresh) :
    Mirrors (fun x y => R x y ∨ Created i s t (s.step (i, a)) (t.step (i, a)) x y) i
      (s.step (i, a)) (t.step (i, a)) := by
  have halike := alike_act hmirrors howned howned' hfresh hfresh'
  have hstep := owned_step howned hfresh
  have hstep' := owned_step howned' hfresh'
  constructor
  · rw [material_step_self, material_step_self]
    exact halike.id
  · exact halike.rejecting
  · exact hmirrors.slot_step howned howned' hfresh hfresh'
  · exact hmirrors.held_step howned howned' hfresh hfresh'
  · -- An id that was handed out now had no counterpart before.
    refine biUnique_or hmirrors.biUnique (biUnique_created hstep hstep') ?_ ?_
    · rintro x x' y hold ⟨kind, -, -, -, hvalid, -, hnew⟩
      rcases hmirrors.issued x y hold with ⟨-, rfl⟩ | ⟨-, hissued⟩
      · cases hvalid
      · exact hnew hissued
    · rintro x y y' hold ⟨kind, -, -, hvalid, -, hnew, -⟩
      rcases hmirrors.issued x y hold with ⟨rfl, -⟩ | ⟨hissued, -⟩
      · cases hvalid
      · exact hnew hissued
  · exact Or.inl hmirrors.invalid
  · rintro x y (hold | ⟨kind, rfl, rfl, hvalid, hvalid', -⟩)
    · refine (hmirrors.issued x y hold).imp_right fun hissued => ?_
      exact ⟨(s.moves_step (i, a)).issued_prefix_issued.subset hissued.1,
        (t.moves_step (i, a)).issued_prefix_issued.subset hissued.2⟩
    · exact Or.inr ⟨hstep.issued_of_valid hvalid, hstep'.issued_of_valid hvalid'⟩

/-! ## The steps of others -/

theorem Mirrors.step_of_ne {e : ι × MaterialAction} (hmirrors : Mirrors R i s t)
    (howned : s.holdings.Owned) (hfresh : (s.step e).sink.Fresh) (hne : i ≠ e.1) :
    Mirrors R i (s.step e) t := by
  have hmoves := s.moves_step e
  have hother := held_step_of_ne howned hfresh hne
  constructor
  · rw [material_step_of_ne hne]
    exact hmirrors.id
  · exact hmoves.rejecting_eq.trans hmirrors.rejecting
  · intro kind
    rw [(hother kind).1]
    exact hmirrors.slot kind
  · intro kind
    rw [(hother kind).2]
    exact hmirrors.held kind
  · exact hmirrors.biUnique
  · exact hmirrors.invalid
  · intro x y hold
    exact (hmirrors.issued x y hold).imp_right fun hissued =>
      ⟨hmoves.issued_prefix_issued.subset hissued.1, hissued.2⟩

/-! ## Runs -/

theorem Observation.Same.mono {S : NetworkId → NetworkId → Prop} {o o' : Observation}
    (hsame : o.Same R o') (himp : ∀ x y, R x y → S x y) : o.Same S o' :=
  ⟨hsame.report, fun kind => himp _ _ (hsame.slot kind), hsame.network⟩

theorem observe_same (hmirrors : Mirrors R i s t) (howned : s.holdings.Owned)
    (howned' : t.holdings.Owned) (hfresh : (s.step (i, a)).sink.Fresh)
    (hfresh' : (t.step (i, a)).sink.Fresh) :
    (s.observe (i, a)).Same
      (fun x y => R x y ∨ Created i s t (s.step (i, a)) (t.step (i, a)) x y)
      (t.observe (i, a)) where
  report := (alike_act hmirrors howned howned' hfresh hfresh').report
  slot := hmirrors.slot_step howned howned' hfresh hfresh'
  network := hmirrors.held_step howned howned' hfresh hfresh'

/-- Along a run, the correspondence of ids only grows. -/
theorem Mirrors.run (steps : List (ι × MaterialAction)) (hmirrors : Mirrors R i s t)
    (howned : s.holdings.Owned) (howned' : t.holdings.Owned) (hfresh : (s.run steps).sink.Fresh)
    (hfresh' : (t.run (ownSteps i steps)).sink.Fresh) :
    ∃ S : NetworkId → NetworkId → Prop, (∀ x y, R x y → S x y) ∧
      Mirrors S i (s.run steps) (t.run (ownSteps i steps)) ∧
      List.Forall₂ (Observation.Same S) (observations i s steps)
        (observations i t (ownSteps i steps)) := by
  induction steps generalizing s t R with
  | nil => exact ⟨R, fun _ _ hold => hold, hmirrors, .nil⟩
  | cons e rest ih =>
    -- The material itself steps in both runs, and another one in the first run only.
    have hstep : (s.step e).sink.Fresh := (moves_run (s.step e) rest).fresh hfresh
    by_cases hi : i = e.1
    · obtain ⟨j, a⟩ := e
      subst hi
      rw [ownSteps_cons_self] at hfresh' ⊢
      have hstep' : (t.step (i, a)).sink.Fresh := (moves_run _ (ownSteps i rest)).fresh hfresh'
      obtain ⟨S, himp, hrun, hsame⟩ :=
        ih (hmirrors.step_self howned howned' hstep hstep') (owned_step howned hstep)
          (owned_step howned' hstep') hfresh hfresh'
      refine ⟨S, fun x y hold => himp x y (Or.inl hold), hrun, ?_⟩
      rw [observations, if_pos rfl, observations, if_pos rfl]
      exact .cons ((observe_same hmirrors howned howned' hstep hstep').mono himp) hsame
    · rw [ownSteps_cons_of_ne rest hi] at hfresh' ⊢
      rw [observations, if_neg (Ne.symm hi)]
      exact ih (hmirrors.step_of_ne howned hstep hi) (owned_step howned hstep) howned' hfresh
        hfresh'

variable {paths : ι → String} {rejecting : Bool} {supply supply' : Nat → NetworkId}
  {steps : List (ι × MaterialAction)}

/-- Materials that share a sink do not interfere. Take any run, and the same run without the steps
of other materials, on sinks that treat creations alike and hand out fresh ids of their own. There
is a one to one correspondence of ids under which a material shows the same after each of its steps
in either run: the report, and which networks the sink has for it, with their nodes and revisions.
In the end of the runs it still stands alike. -/
theorem isolation_of_run (i : ι)
    (hfresh : ((start paths (.opened rejecting supply)).run steps).sink.Fresh)
    (hfresh' : ((start paths (.opened rejecting supply')).run (ownSteps i steps)).sink.Fresh) :
    let s := start paths (.opened rejecting supply)
    let t := start paths (.opened rejecting supply')
    ∃ R : NetworkId → NetworkId → Prop, Relator.BiUnique R ∧
      (∀ x y, R x y → x.isValid = y.isValid) ∧
      List.Forall₂ (Observation.Same R) (observations i s steps)
        (observations i t (ownSteps i steps)) ∧
      ∀ kind, R ((s.run steps).holdings.slot (i, kind))
          ((t.run (ownSteps i steps)).holdings.slot (i, kind)) ∧
        (s.run steps).holdings.held (i, kind) =
          (t.run (ownSteps i steps)).holdings.held (i, kind) := by
  intro s t
  obtain ⟨R, -, hmirrors, hsame⟩ :=
    (mirrors_start i).run steps owned_start owned_start hfresh hfresh'
  refine ⟨R, hmirrors.biUnique, fun x y hxy => ?_, hsame, fun kind =>
    ⟨hmirrors.slot kind, hmirrors.held kind⟩⟩
  rcases hmirrors.issued x y hxy with ⟨rfl, rfl⟩ | ⟨hx, hy⟩
  · rfl
  · rw [hfresh.valid x hx, hfresh'.valid y hy]

/-- The network that is the third one of the shared sink is the first one of a sink of its own. -/
theorem isolation_of_sampleSteps :
    let s : Scene Bool := start (fun _ => "/M") (.opened false .created)
    (s.run sampleSteps).sink.Fresh ∧ (s.run (ownSteps false sampleSteps)).sink.Fresh ∧
      ∃ R : NetworkId → NetworkId → Prop, Relator.BiUnique R ∧ R (.created 2) (.created 0) ∧
        List.Forall₂ (Observation.Same R) (observations false s sampleSteps)
          (observations false s (ownSteps false sampleSteps)) := by
  intro s
  have hfresh : (s.run sampleSteps).sink.Fresh := fresh_run_numbered _ _ _
  have hfresh' : (s.run (ownSteps false sampleSteps)).sink.Fresh := fresh_run_numbered _ _ _
  have hslot : ((start (fun _ => "/M") (.opened false .created)).run
      sampleSteps).holdings.slot (false, .material) = .created 2 := by cbv
  have hslot' : ((start (fun _ => "/M") (.opened false .created)).run
      (ownSteps false sampleSteps)).holdings.slot (false, .material) = .created 0 := by cbv
  obtain ⟨R, hunique, -, hsame, hend⟩ := isolation_of_run false hfresh hfresh'
  have hcorrespond := (hend .material).1
  rw [hslot, hslot'] at hcorrespond
  exact ⟨hfresh, hfresh', R, hunique, hcorrespond, hsame⟩

end Scene

end ShadingGraph
