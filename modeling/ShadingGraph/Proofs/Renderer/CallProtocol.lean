import ShadingGraph.Proofs.Renderer.Scene

/-!
# The calls that a sink receives

The calls that name one id make up the life of one network: a creation, modifications, and a
deletion at most, all of one kind. A network is modified and deleted only while it is there, and
nothing but creations reaches a sink that rejects them.

## Main definitions

- `SinkCall.history` — a creation and a number of modifications
- `SinkCall.target?` — the network that has to be there for a call
- `SinkCall.LiveAfter` — an id was created and not deleted
- `Holdings.Recorded` — the invariant: the log says of each id what has become of it

## Main results

- `Holdings.Recorded.moves` — the invariant is kept
- `Scene.call_protocol_of_run` — what the log of a run looks like
-/

namespace ShadingGraph

namespace SinkCall

/-- A creation and a number of modifications. -/
def history (kind : NetworkKind) (id : NetworkId) (k : Nat) : List SinkCall :=
  .create kind id :: List.replicate k (.modify kind id)

/-- The id whose network a call asks for; a creation asks for none. -/
def target? : SinkCall → Option NetworkId
  | .create _ _ => none
  | .modify _ id | .delete _ id => some id

/-- An id was created in some calls, and not deleted. -/
def LiveAfter (calls : List SinkCall) (id : NetworkId) : Prop :=
  (∃ kind, .create kind id ∈ calls) ∧ ∀ kind, .delete kind id ∉ calls

/-- Calls ask only for networks that are there at the time. -/
def Timely (calls : List SinkCall) : Prop :=
  ∀ front call back id, calls = front ++ call :: back → call.target? = some id →
    id.isValid = true ∧ LiveAfter front id

variable {kind : NetworkKind} {id : NetworkId} {k : Nat} {calls : List SinkCall} {call : SinkCall}

theorem history_concat_modify :
    history kind id k ++ [.modify kind id] = history kind id (k + 1) := by
  rw [history, history, List.replicate_succ', List.cons_append]

theorem delete_not_mem_history {kind' : NetworkKind} : .delete kind' id ∉ history kind id k := by
  simp [history]

theorem timely_nil : Timely [] := by
  intro front call back id hsplit
  cases front <;> cases hsplit

theorem Timely.concat (h : Timely calls)
    (hlast : ∀ id, call.target? = some id → id.isValid = true ∧ LiveAfter calls id) :
    Timely (calls ++ [call]) := by
  intro front call' back id hsplit htarget
  rcases List.eq_nil_or_concat' back with rfl | ⟨back', last, rfl⟩
  · obtain ⟨rfl, hcall⟩ := List.append_inj' hsplit rfl
    cases hcall
    exact hlast id htarget
  · rw [← List.cons_append, ← List.append_assoc] at hsplit
    exact h front call' back' id (List.append_inj' hsplit rfl).1 htarget

end SinkCall

open SinkCall

/-! ## The calls on one id -/

namespace NetworkSink

variable {s : NetworkSink} {kind : NetworkKind} {id id' : NetworkId} {nodes : List ShadingNode}

theorem callsOn_concat {s' : NetworkSink} {call : SinkCall} (h : s'.calls = s.calls ++ [call]) :
    s'.callsOn id = s.callsOn id ++ if call.id = id then [call] else [] := by
  rw [callsOn, callsOn, h, List.filter_append]
  by_cases hid : call.id = id
  · simp [hid]
  · simp [hid]

theorem callsOn_concat_self {s' : NetworkSink} {call : SinkCall} (h : s'.calls = s.calls ++ [call])
    (hid : call.id = id) : s'.callsOn id = s.callsOn id ++ [call] := by
  rw [callsOn_concat h, if_pos hid]

theorem callsOn_concat_of_ne {s' : NetworkSink} {call : SinkCall}
    (h : s'.calls = s.calls ++ [call]) (hid : id ≠ call.id) : s'.callsOn id = s.callsOn id := by
  rw [callsOn_concat h, if_neg (Ne.symm hid), List.append_nil]

theorem liveAfter_iff_callsOn :
    LiveAfter s.calls id ↔
      (∃ kind, .create kind id ∈ s.callsOn id) ∧ ∀ kind, .delete kind id ∉ s.callsOn id := by
  simp [LiveAfter, callsOn, SinkCall.id]

end NetworkSink

namespace Holdings

variable {ι : Type} {h h' : Holdings ι} {p : ι × NetworkKind} {id : NetworkId}
  {nodes : List ShadingNode} {owners : ι → Prop}

/-! ## What the log says -/

/-- The log says of each id what has become of it. -/
structure Recorded (h : Holdings ι) : Prop where
  /-- A live network was created and perhaps modified. -/
  opened : ∀ id n, h.sink.network? id = some n → ∃ k, h.sink.callsOn id = history n.kind id k
  /-- What is not there has no calls, or was deleted in the end. -/
  closed : ∀ id, id.isValid = true → ¬ h.sink.Live id →
    h.sink.callsOn id = [] ∨
      ∃ kind k, h.sink.callsOn id = history kind id k ++ [.delete kind id]
  /-- No call names a valid id that was not handed out. -/
  unissued : ∀ id, id.isValid = true → id ∉ h.sink.issued → h.sink.callsOn id = []
  timely : Timely h.sink.calls
  rejected : h.sink.rejecting = true → ∀ call ∈ h.sink.calls, ∃ kind, call = .create kind .invalid

namespace Recorded

theorem liveAfter_of_network? (hrecorded : h.Recorded) {n : CommittedNetwork}
    (hn : h.sink.network? id = some n) : LiveAfter h.sink.calls id := by
  obtain ⟨k, hcalls⟩ := hrecorded.opened id n hn
  rw [NetworkSink.liveAfter_iff_callsOn, hcalls]
  exact ⟨⟨n.kind, List.mem_cons_self⟩, fun _ => delete_not_mem_history⟩

/-- A valid id is live exactly if it was created and not deleted. -/
theorem live_iff (hrecorded : h.Recorded) (hvalid : id.isValid = true) :
    h.sink.Live id ↔ LiveAfter h.sink.calls id := by
  refine ⟨fun ⟨n, hn⟩ => hrecorded.liveAfter_of_network? hn, fun hafter => ?_⟩
  obtain ⟨⟨kind, hcreate⟩, hdelete⟩ := NetworkSink.liveAfter_iff_callsOn.1 hafter
  by_contra hlive
  rcases hrecorded.closed id hvalid hlive with hnone | ⟨kind', k, hcalls⟩
  · rw [hnone] at hcreate
    cases hcreate
  · exact hdelete kind' (by simp [hcalls])

theorem opening (rejecting : Bool) (supply : Nat → NetworkId) :
    Recorded (ι := ι) ⟨fun _ => .invalid, .opened rejecting supply⟩ where
  opened id n hn := by cases hn
  closed _ _ _ := Or.inl rfl
  unissued _ _ _ := rfl
  timely := timely_nil
  rejected _ call hcall := by cases hcall

theorem reject (hrecorded : h.Recorded) (howned : h.Owned) (hfresh : h.sink.Fresh)
    (hrejects : h.sink.rejecting = true) :
    Recorded { h with sink := (h.sink.create p.2 nodes).2 } := by
  have hcalls : (h.sink.create p.2 nodes).2.calls = h.sink.calls ++ [.create p.2 .invalid] := by
    rw [NetworkSink.calls_create, NetworkSink.create_of_rejecting hrejects]
  have hother : ∀ {id : NetworkId}, id.isValid = true →
      (h.sink.create p.2 nodes).2.callsOn id = h.sink.callsOn id := fun hvalid =>
    NetworkSink.callsOn_concat_of_ne hcalls (NetworkId.isValid_iff.1 hvalid)
  constructor
  · -- The call names the invalid id, so it does not count for any other.
    intro id n hn
    rw [NetworkSink.network?_create_of_rejecting hrejects] at hn
    rw [hother (howned.isValid_of_live hfresh ⟨n, hn⟩)]
    exact hrecorded.opened id n hn
  · intro id hvalid hlive
    rw [NetworkSink.live_create_of_rejecting hrejects] at hlive
    rw [hother hvalid]
    exact hrecorded.closed id hvalid hlive
  · intro id hvalid hid
    rw [NetworkSink.issued_create_of_rejecting hrejects] at hid
    rw [hother hvalid]
    exact hrecorded.unissued id hvalid hid
  · rw [hcalls]
    exact hrecorded.timely.concat fun id htarget => by cases htarget
  · intro _ call hcall
    rw [hcalls, List.mem_append, List.mem_singleton] at hcall
    rcases hcall with hbefore | rfl
    · exact hrecorded.rejected hrejects call hbefore
    · exact ⟨p.2, rfl⟩

theorem modify (hrecorded : h.Recorded) (howned : h.Owned) (hvalid : (h.slot p).isValid = true) :
    Recorded { h with sink := h.sink.modify p.2 (h.slot p) nodes } := by
  obtain ⟨held, hheld, hkind⟩ := howned.live_of_valid p hvalid
  have hcalls : (h.sink.modify p.2 (h.slot p) nodes).calls =
      h.sink.calls ++ [.modify p.2 (h.slot p)] := NetworkSink.calls_modify
  have hother : ∀ {id}, id ≠ h.slot p →
      (h.sink.modify p.2 (h.slot p) nodes).callsOn id = h.sink.callsOn id :=
    NetworkSink.callsOn_concat_of_ne hcalls
  constructor
  · intro id n hn
    rw [NetworkSink.network?_modify] at hn
    obtain ⟨before, hbefore, rfl⟩ := Option.map_eq_some_iff.1 hn
    obtain ⟨k, hhistory⟩ := hrecorded.opened id before hbefore
    by_cases hid : id = h.slot p
    · -- One more modification, of the kind that the network has.
      have hsame : before = held := Option.some.inj (hbefore.symm.trans (hid ▸ hheld))
      have hbefore_kind : before.kind = p.2 := hsame ▸ hkind
      refine ⟨k + 1, ?_⟩
      rw [NetworkSink.callsOn_concat_self hcalls hid.symm, hhistory, if_pos hid, ← hid,
        ← hbefore_kind]
      exact history_concat_modify
    · rw [hother hid, if_neg hid]
      exact ⟨k, hhistory⟩
  · intro id hid hlive
    rw [NetworkSink.live_modify] at hlive
    have hne : id ≠ h.slot p := fun heq => hlive (heq ▸ ⟨held, hheld⟩)
    rw [hother hne]
    exact hrecorded.closed id hid hlive
  · intro id hid hissued
    have hne : id ≠ h.slot p := fun heq => hissued (heq ▸ howned.issued_of_valid hvalid)
    rw [hother hne]
    exact hrecorded.unissued id hid hissued
  · rw [hcalls]
    refine hrecorded.timely.concat fun id htarget => ?_
    cases htarget
    exact ⟨hvalid, hrecorded.liveAfter_of_network? hheld⟩
  · intro hrejects
    rw [howned.free_of_rejecting hrejects p] at hvalid
    cases hvalid

variable [DecidableEq ι]

theorem create (hrecorded : h.Recorded) (haccepts : h.sink.rejecting = false)
    (hfresh : (h.sink.create p.2 nodes).2.Fresh) :
    (h.assign p h.sink.nextId (h.sink.create p.2 nodes).2).Recorded := by
  have hcalls : (h.sink.create p.2 nodes).2.calls =
      h.sink.calls ++ [.create p.2 h.sink.nextId] := by
    rw [NetworkSink.calls_create, NetworkSink.fst_create_of_accepting haccepts]
  have hother : ∀ {id}, id ≠ h.sink.nextId →
      (h.sink.create p.2 nodes).2.callsOn id = h.sink.callsOn id :=
    NetworkSink.callsOn_concat_of_ne hcalls
  constructor
  · intro id n hn
    rw [sink_assign, NetworkSink.network?_create haccepts] at hn
    by_cases hid : id = h.sink.nextId
    · -- The new network has the first call that names its id.
      rw [if_pos hid] at hn
      cases hn
      have hnone : h.sink.callsOn id = [] := by
        rw [hid]
        exact hrecorded.unissued h.sink.nextId (hfresh.isValid_nextId haccepts)
          (hfresh.nextId_not_mem haccepts)
      refine ⟨0, ?_⟩
      rw [sink_assign, NetworkSink.callsOn_concat_self hcalls hid.symm, hnone, hid]
      rfl
    · rw [if_neg hid] at hn
      rw [sink_assign, hother hid]
      exact hrecorded.opened id n hn
  · intro id hvalid hlive
    rw [sink_assign, NetworkSink.live_create haccepts, not_or] at hlive
    rw [sink_assign, hother hlive.1]
    exact hrecorded.closed id hvalid hlive.2
  · intro id hvalid hid
    rw [sink_assign, NetworkSink.issued_create haccepts, List.mem_append, not_or,
      List.mem_singleton] at hid
    rw [sink_assign, hother hid.2]
    exact hrecorded.unissued id hvalid hid.1
  · rw [sink_assign, hcalls]
    exact hrecorded.timely.concat fun id htarget => by cases htarget
  · intro hrejects
    rw [sink_assign, NetworkSink.rejecting_create, haccepts] at hrejects
    cases hrejects

theorem delete (hrecorded : h.Recorded) (howned : h.Owned) (hvalid : (h.slot p).isValid = true) :
    (h.assign p .invalid (h.sink.delete p.2 (h.slot p))).Recorded := by
  obtain ⟨held, hheld, hkind⟩ := howned.live_of_valid p hvalid
  have hcalls : (h.sink.delete p.2 (h.slot p)).calls =
      h.sink.calls ++ [.delete p.2 (h.slot p)] := NetworkSink.calls_delete
  have hother : ∀ {id}, id ≠ h.slot p →
      (h.sink.delete p.2 (h.slot p)).callsOn id = h.sink.callsOn id :=
    NetworkSink.callsOn_concat_of_ne hcalls
  constructor
  · intro id n hn
    rw [sink_assign] at hn ⊢
    obtain ⟨hne, -⟩ := NetworkSink.live_delete.1 ⟨n, hn⟩
    rw [NetworkSink.network?_delete, if_neg hne] at hn
    rw [hother hne]
    exact hrecorded.opened id n hn
  · intro id hid hlive
    rw [sink_assign, NetworkSink.live_delete, not_and] at hlive
    rw [sink_assign]
    by_cases heq : id = h.slot p
    · -- The network was there until now, so the deletion is its first one.
      obtain ⟨k, hhistory⟩ := hrecorded.opened (h.slot p) held hheld
      refine Or.inr ⟨p.2, k, ?_⟩
      rw [NetworkSink.callsOn_concat_self hcalls heq.symm, heq, hhistory, hkind]
    · rw [hother heq]
      exact hrecorded.closed id hid (hlive heq)
  · intro id hid hissued
    have hne : id ≠ h.slot p := fun heq => hissued (heq ▸ howned.issued_of_valid hvalid)
    rw [sink_assign, hother hne]
    exact hrecorded.unissued id hid hissued
  · rw [sink_assign, hcalls]
    refine hrecorded.timely.concat fun id htarget => ?_
    cases htarget
    exact ⟨hvalid, hrecorded.liveAfter_of_network? hheld⟩
  · intro hrejects
    rw [howned.free_of_rejecting hrejects p] at hvalid
    cases hvalid

theorem move (hrecorded : h.Recorded) (howned : h.Owned) (hmove : Move p h h')
    (hfresh : h'.sink.Fresh) : h'.Recorded := by
  cases hmove with
  | pass => exact hrecorded
  | create nodes hfree haccepts => exact hrecorded.create haccepts hfresh
  | reject nodes hfree hrejects =>
    have hbefore := hfresh.mono (Move.reject nodes hfree hrejects).issued_prefix_issued
    exact hrecorded.reject howned hbefore hrejects
  | modify nodes hvalid => exact hrecorded.modify howned hvalid
  | delete hvalid => exact hrecorded.delete howned hvalid

/-- Ownership and the record are kept together. -/
theorem moves (hrecorded : h.Recorded) (howned : h.Owned) (hmoves : Moves owners h h')
    (hfresh : h'.sink.Fresh) : h'.Recorded := by
  have hboth : h'.Owned ∧ h'.Recorded := by
    refine hmoves.keeps (P := fun h => h.Owned ∧ h.Recorded) ?_ hfresh ⟨howned, hrecorded⟩
    rintro p h h' - hmove hfresh ⟨howned, hrecorded⟩
    exact ⟨howned.move hmove hfresh, hrecorded.move howned hmove hfresh⟩
  exact hboth.2

end Recorded

end Holdings

/-! ## The log of a run -/

namespace Scene

variable {ι : Type} [DecidableEq ι] {paths : ι → String} {rejecting : Bool}
  {supply : Nat → NetworkId} {steps : List (ι × MaterialAction)}

theorem recorded_run (hfresh : ((start paths (.opened rejecting supply)).run steps).sink.Fresh) :
    ((start paths (.opened rejecting supply)).run steps).holdings.Recorded := by
  have hmoves := moves_run (start paths (.opened rejecting supply)) steps
  rw [holdings_start] at hmoves
  exact (Holdings.Recorded.opening rejecting supply).moves (.opened rejecting supply) hmoves hfresh

/-- What the log of a run looks like, as long as the ids handed out are fresh. The calls that name a
valid id are a creation, modifications and at most a deletion in the end, all of one kind. Networks
are modified and deleted only while they are there; what is there after the run is what the log
says. A sink that rejects creations receives nothing else, and hands out no valid id. -/
theorem call_protocol_of_run
    (hfresh : ((start paths (.opened rejecting supply)).run steps).sink.Fresh) :
    let s := (start paths (.opened rejecting supply)).run steps
    (∀ id, id.isValid = true → s.sink.callsOn id = [] ∨
      ∃ kind k, s.sink.callsOn id = history kind id k ∨
        s.sink.callsOn id = history kind id k ++ [.delete kind id]) ∧
      (∀ front call back id, s.sink.calls = front ++ call :: back → call.target? = some id →
        id.isValid = true ∧ LiveAfter front id) ∧
      (∀ id, s.sink.Live id ↔ id.isValid = true ∧ LiveAfter s.sink.calls id) ∧
      (rejecting = true →
        (∀ call ∈ s.sink.calls, ∃ kind, call = .create kind .invalid) ∧
          ∀ i kind, (s.materials i).slot kind = .invalid) := by
  intro s
  have howned : s.holdings.Owned := owned_run hfresh
  have hrecorded : s.holdings.Recorded := recorded_run hfresh
  refine ⟨fun id hvalid => ?_, hrecorded.timely, fun id => ?_, fun hrejects => ?_⟩
  · by_cases hlive : s.sink.Live id
    · obtain ⟨n, hn⟩ := hlive
      obtain ⟨k, hhistory⟩ := hrecorded.opened id n hn
      exact Or.inr ⟨n.kind, k, Or.inl hhistory⟩
    · rcases hrecorded.closed id hvalid hlive with hnone | ⟨kind, k, hhistory⟩
      · exact Or.inl hnone
      · exact Or.inr ⟨kind, k, Or.inr hhistory⟩
  · constructor
    · intro hlive
      have hvalid := howned.isValid_of_live hfresh hlive
      exact ⟨hvalid, (hrecorded.live_iff hvalid).1 hlive⟩
    · rintro ⟨hvalid, hafter⟩
      exact (hrecorded.live_iff hvalid).2 hafter
  · have hrejecting : s.sink.rejecting = true := (moves_run _ steps).rejecting_eq.trans hrejects
    exact ⟨hrecorded.rejected hrejecting,
      fun i kind => howned.free_of_rejecting hrejecting (i, kind)⟩

theorem call_protocol_of_sampleSteps :
    let s := (start (fun _ => "/M") (.opened false .created)).run sampleSteps
    let s' := (start (fun _ => "/M") (.opened true .created)).run sampleSteps
    (s.sink.Fresh ∧
      LiveAfter
        [.create .material (.created 0), .create .displacement (.created 1),
          .create .material (.created 2), .modify .material (.created 2),
          .delete .material (.created 0)] (.created 1)) ∧
      s'.sink.Fresh ∧ ∀ i kind, (s'.materials i).slot kind = .invalid := by
  have hfresh := fresh_run_numbered (fun _ => "/M") false sampleSteps
  have hfresh' := fresh_run_numbered (fun _ => "/M") true sampleSteps
  have hcalls : ((start (fun _ => "/M") (.opened false .created)).run sampleSteps).sink.calls =
      [.create .material (.created 0), .create .displacement (.created 1),
        .create .material (.created 2), .modify .material (.created 2),
        .delete .material (.created 0)] ++ .delete .displacement (.created 1) :: [] := by cbv
  have htimely := (call_protocol_of_run hfresh).2.1 _ _ _ (.created 1) hcalls rfl
  exact ⟨⟨hfresh, htimely.2⟩, hfresh', ((call_protocol_of_run hfresh').2.2.2 rfl).2⟩

end Scene

end ShadingGraph
