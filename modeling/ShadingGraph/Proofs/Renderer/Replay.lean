import Mathlib.Data.List.Induction
import ShadingGraph.Proofs.OrderedMap
import ShadingGraph.Proofs.Renderer.Sink

/-!
# The networks of a sink as a replay of its calls

Whatever calls reach a sink, misdirected ones included, its networks follow from what it has logged:
those that were created and not deleted later, with the nodes of their last modifications.

## Main definitions

- `SinkRequest`, `NetworkSink.serveAll` — calls of any kind, and the sink after them
- `LoggedCall`, `NetworkSink.transcript` — what is logged of each call, with the nodes it brought
- `LoggedCall.LeftWith` — what a transcript makes of an id
- `NetworkSink.Replays` — the invariant: the sink is what the transcript says

## Main results

- `NetworkSink.Replays.serve` — every call keeps the invariant
- `NetworkSink.replay_of_calls` — what a sink holds after any calls
-/

namespace ShadingGraph

/-- A call on a sink, before it is answered. -/
inductive SinkRequest where
  | create (kind : NetworkKind) (nodes : List ShadingNode)
  | modify (kind : NetworkKind) (id : NetworkId) (nodes : List ShadingNode)
  | delete (kind : NetworkKind) (id : NetworkId)

/-- The id that a call asks for; a creation asks for none. -/
def SinkRequest.target? : SinkRequest → Option NetworkId
  | .create _ _ => none
  | .modify _ id _ | .delete _ id => some id

/-- A logged call, and the nodes that came with it. -/
structure LoggedCall where
  call : SinkCall
  nodes : List ShadingNode

namespace LoggedCall

variable {log rest : List LoggedCall} {entry : LoggedCall} {id id' : NetworkId}
  {kind : NetworkKind} {nodes : List ShadingNode} {n : CommittedNetwork}

/-! ## What the log says -/

/-- The id that a creation handed out. -/
def createdId? (entry : LoggedCall) : Option NetworkId :=
  match entry.call with
  | .create _ id => some id
  | .modify _ _ | .delete _ _ => none

/-- The nodes that a modification of an id brought. -/
def nodesFor? (id : NetworkId) (entry : LoggedCall) : Option (List ShadingNode) :=
  match entry.call with
  | .modify _ id' => if id' = id then some entry.nodes else none
  | .create _ _ | .delete _ _ => none

/-- A call deletes an id. -/
def Deletes (id : NetworkId) (entry : LoggedCall) : Prop := ∃ kind, entry.call = .delete kind id

/-- The ids handed out, in order. -/
def createdIds (log : List LoggedCall) : List NetworkId := log.filterMap createdId?

/-- What the modifications of an id brought, in order. -/
def modifications (id : NetworkId) (log : List LoggedCall) : List (List ShadingNode) :=
  log.filterMap (nodesFor? id)

/-- The network that a creation makes, with the calls behind it: it has the nodes that were brought
last, and counts the modifications. -/
def heldAfter (kind : NetworkKind) (id : NetworkId) (nodes : List ShadingNode)
    (rest : List LoggedCall) : CommittedNetwork where
  kind := kind
  nodes := (modifications id rest).getLastD nodes
  modifications := .ofNat (modifications id rest).length

/-- An id was created in a log and not deleted behind that, and names a network. -/
def LeftWith (log : List LoggedCall) (id : NetworkId) (n : CommittedNetwork) : Prop :=
  ∃ front kind nodes rest, log = front ++ ⟨.create kind id, nodes⟩ :: rest ∧
    (∀ entry ∈ rest, ¬ entry.Deletes id) ∧ n = heldAfter kind id nodes rest

/-! ## One more entry -/

theorem createdIds_concat :
    createdIds (log ++ [entry]) = createdIds log ++ entry.createdId?.toList := by
  simp only [createdIds, List.filterMap_append, List.filterMap_cons, List.filterMap_nil]
  cases entry.createdId? <;> rfl

theorem modifications_concat :
    modifications id (log ++ [entry]) = modifications id log ++ (entry.nodesFor? id).toList := by
  simp only [modifications, List.filterMap_append, List.filterMap_cons, List.filterMap_nil]
  cases entry.nodesFor? id <;> rfl

theorem LeftWith.mem_createdIds (h : LeftWith log id n) : id ∈ createdIds log := by
  obtain ⟨front, kind, nodes, rest, rfl, -⟩ := h
  exact List.mem_filterMap.2 ⟨_, List.mem_append_right _ List.mem_cons_self, rfl⟩

/-- What a call makes of a network that it does not delete. -/
def applyTo (entry : LoggedCall) (id : NetworkId) (n : CommittedNetwork) : CommittedNetwork :=
  match entry.nodesFor? id with
  | some nodes => n.replaceNodes nodes
  | none => n

theorem heldAfter_concat :
    heldAfter kind id nodes (rest ++ [entry]) =
      entry.applyTo id (heldAfter kind id nodes rest) := by
  rw [heldAfter, modifications_concat, applyTo]
  cases entry.nodesFor? id with
  | none => rw [Option.toList_none, List.append_nil, heldAfter]
  | some brought =>
    rw [Option.toList_some, List.getLastD_concat, List.length_append, List.length_singleton,
      UInt32.ofNat_add]
    rfl

private theorem concat_eq_split_iff {α : Type} {l front back : List α} {a b : α} :
    l ++ [a] = front ++ b :: back ↔
      (front = l ∧ b = a ∧ back = []) ∨ ∃ rest, back = rest ++ [a] ∧ l = front ++ b :: rest := by
  constructor
  · intro h
    rcases List.eq_nil_or_concat' back with rfl | ⟨rest, last, rfl⟩
    · obtain ⟨rfl, hlast⟩ := List.append_inj' h rfl
      exact Or.inl ⟨rfl, (List.singleton_inj.1 hlast).symm, rfl⟩
    · rw [← List.cons_append, ← List.append_assoc] at h
      obtain ⟨hfront, hlast⟩ := List.append_inj' h rfl
      exact Or.inr ⟨rest, by rw [List.singleton_inj.1 hlast], hfront⟩
  · rintro (⟨rfl, rfl, rfl⟩ | ⟨rest, rfl, rfl⟩)
    · rfl
    · simp

/-- The last call creates the network, or leaves one that was there before. -/
theorem leftWith_concat_iff :
    LeftWith (log ++ [entry]) id n ↔
      (∃ kind nodes, entry = ⟨.create kind id, nodes⟩ ∧ n = ⟨kind, nodes, 0⟩) ∨
        ¬ entry.Deletes id ∧ ∃ m, LeftWith log id m ∧ n = entry.applyTo id m := by
  constructor
  · rintro ⟨front, kind, nodes, rest, hsplit, hdeletes, rfl⟩
    rcases concat_eq_split_iff.1 hsplit with ⟨rfl, rfl, rfl⟩ | ⟨rest, rfl, rfl⟩
    · exact Or.inl ⟨kind, nodes, rfl, rfl⟩
    · obtain ⟨hrest, hlast⟩ := List.forall_mem_append.1 hdeletes
      exact Or.inr ⟨hlast entry (List.mem_singleton_self _), _,
        ⟨front, kind, nodes, rest, rfl, hrest, rfl⟩, heldAfter_concat⟩
  · rintro (⟨kind, nodes, rfl, rfl⟩ | ⟨hlast, _, ⟨front, kind, nodes, rest, rfl, hrest, rfl⟩, rfl⟩)
    · exact ⟨log, kind, nodes, [], rfl, fun _ h => absurd h List.not_mem_nil, rfl⟩
    · refine ⟨front, kind, nodes, rest ++ [entry], by simp, ?_, heldAfter_concat.symm⟩
      refine List.forall_mem_append.2 ⟨hrest, fun e he => ?_⟩
      rwa [List.mem_singleton.1 he]

theorem leftWith_concat_create :
    LeftWith (log ++ [⟨.create kind id', nodes⟩]) id n ↔
      (id = id' ∧ n = ⟨kind, nodes, 0⟩) ∨ LeftWith log id n := by
  have hdeletes : ¬ Deletes id ⟨.create kind id', nodes⟩ := nofun
  rw [leftWith_concat_iff, and_iff_right hdeletes]
  refine or_congr ⟨?_, ?_⟩ ⟨?_, fun h => ⟨n, h, rfl⟩⟩
  · rintro ⟨_, _, heq, rfl⟩
    cases heq
    exact ⟨rfl, rfl⟩
  · rintro ⟨rfl, rfl⟩
    exact ⟨kind, nodes, rfl, rfl⟩
  · rintro ⟨m, hm, rfl⟩
    exact hm

theorem leftWith_concat_modify :
    LeftWith (log ++ [⟨.modify kind id', nodes⟩]) id n ↔
      ∃ m, LeftWith log id m ∧ n = if id = id' then m.replaceNodes nodes else m := by
  have hdeletes : ¬ Deletes id ⟨.modify kind id', nodes⟩ := nofun
  have happly : ∀ m, applyTo ⟨.modify kind id', nodes⟩ id m =
      if id = id' then m.replaceNodes nodes else m := by
    intro m
    by_cases hid : id = id'
    · simp [applyTo, nodesFor?, hid]
    · simp [applyTo, nodesFor?, hid, Ne.symm hid]
  rw [leftWith_concat_iff, and_iff_right hdeletes, or_iff_right nofun]
  simp only [happly]

theorem leftWith_concat_delete :
    LeftWith (log ++ [⟨.delete kind id', nodes⟩]) id n ↔ id ≠ id' ∧ LeftWith log id n := by
  have hdeletes : Deletes id ⟨.delete kind id', nodes⟩ ↔ id = id' := by
    constructor
    · rintro ⟨_, heq⟩
      cases heq
      rfl
    · rintro rfl
      exact ⟨kind, rfl⟩
  rw [leftWith_concat_iff, or_iff_right nofun, hdeletes]
  refine and_congr_right fun _ => ⟨?_, fun h => ⟨n, h, rfl⟩⟩
  rintro ⟨m, hm, rfl⟩
  exact hm

end LoggedCall

open LoggedCall

namespace NetworkSink

variable {s : NetworkSink} {log : List LoggedCall} {r : SinkRequest} {requests : List SinkRequest}
  {kind : NetworkKind} {id : NetworkId} {nodes : List ShadingNode}

/-! ## Calls of any kind -/

/-- The sink after a call. -/
def serve (s : NetworkSink) : SinkRequest → NetworkSink
  | .create kind nodes => (s.create kind nodes).2
  | .modify kind id nodes => s.modify kind id nodes
  | .delete kind id => s.delete kind id

/-- What is logged of a call; a creation is logged with the id that it hands out. -/
def entryFor (s : NetworkSink) : SinkRequest → LoggedCall
  | .create kind nodes => ⟨.create kind (s.create kind nodes).1, nodes⟩
  | .modify kind id nodes => ⟨.modify kind id, nodes⟩
  | .delete kind id => ⟨.delete kind id, []⟩

/-- The sink after one call after the other. -/
def serveAll (s : NetworkSink) (requests : List SinkRequest) : NetworkSink :=
  requests.foldl serve s

/-- What is logged of one call after the other. -/
def transcript (s : NetworkSink) : List SinkRequest → List LoggedCall
  | [] => []
  | r :: rest => s.entryFor r :: (s.serve r).transcript rest

theorem serveAll_concat : s.serveAll (requests ++ [r]) = (s.serveAll requests).serve r :=
  List.foldl_append

theorem transcript_concat :
    s.transcript (requests ++ [r]) =
      s.transcript requests ++ [(s.serveAll requests).entryFor r] := by
  induction requests generalizing s with
  | nil => rfl
  | cons r' rest ih => exact congrArg (s.entryFor r' :: ·) ih

@[simp] theorem calls_serve : (s.serve r).calls = s.calls ++ [(s.entryFor r).call] := by
  cases r with
  | create kind nodes => exact calls_create
  | modify kind id nodes => exact calls_modify
  | delete kind id => exact calls_delete

@[simp] theorem rejecting_serve : (s.serve r).rejecting = s.rejecting := by
  cases r with
  | create kind nodes => exact rejecting_create
  | modify kind id nodes => rfl
  | delete kind id => rfl

theorem rejecting_serveAll : (s.serveAll requests).rejecting = s.rejecting := by
  induction requests generalizing s with
  | nil => rfl
  | cons r rest ih => exact ih.trans rejecting_serve

theorem issued_serve (haccepts : s.rejecting = false) :
    (s.serve r).issued = s.issued ++ (s.entryFor r).createdId?.toList := by
  cases r with
  | create kind nodes =>
    rw [serve, issued_create haccepts, entryFor, fst_create_of_accepting haccepts]
    rfl
  | modify kind id nodes => exact (List.append_nil _).symm
  | delete kind id => exact (List.append_nil _).symm

/-! ## The invariant -/

/-- A sink has logged some calls, and its networks are those that the log leaves. -/
structure Replays (s : NetworkSink) (log : List LoggedCall) : Prop where
  calls : s.calls = log.map (·.call)
  issued : s.issued = createdIds log
  order : s.networks.keys.Sublist (createdIds log)
  network : ∀ id n, s.network? id = some n ↔ LeftWith log id n

theorem replays_opened (rejecting : Bool) (supply : Nat → NetworkId) :
    (opened rejecting supply).Replays [] where
  calls := rfl
  issued := rfl
  order := .slnil
  network id n := by
    constructor
    · rintro ⟨⟩
    · rintro ⟨front, kind, nodes, rest, hsplit, -⟩
      cases front <;> cases hsplit

theorem keys_create (haccepts : s.rejecting = false) (hnew : s.nextId ∉ s.networks.keys) :
    (s.create kind nodes).2.networks.keys = s.networks.keys ++ [s.nextId] := by
  rw [create, if_neg (by simp [haccepts])]
  exact (OrderedMap.keys_insert _ _ _).trans (if_neg hnew)

theorem keys_modify : (s.modify kind id nodes).networks.keys = s.networks.keys :=
  OrderedMap.keys_modify _ _ _

theorem keys_delete_sublist : (s.delete kind id).networks.keys.Sublist s.networks.keys := by
  have hkeys : (s.delete kind id).networks.keys = _ := OrderedMap.keys_erase s.networks id
  rw [hkeys]
  exact List.filter_sublist

theorem Replays.create (h : s.Replays log) (haccepts : s.rejecting = false)
    (hfresh : (s.create kind nodes).2.Fresh) :
    (s.serve (.create kind nodes)).Replays (log ++ [s.entryFor (.create kind nodes)]) := by
  have hnew : s.nextId ∉ createdIds log := h.issued ▸ hfresh.nextId_not_mem haccepts
  have hentry : s.entryFor (.create kind nodes) = ⟨.create kind s.nextId, nodes⟩ := by
    rw [entryFor, fst_create_of_accepting haccepts]
  constructor
  · rw [calls_serve, h.calls, List.map_append, List.map_singleton]
  · rw [issued_serve haccepts, h.issued, createdIds_concat]
  · rw [hentry, createdIds_concat, serve,
      keys_create haccepts fun hmem => hnew (h.order.subset hmem)]
    exact h.order.append (.refl _)
  · intro id n
    rw [hentry, leftWith_concat_create, serve, network?_create haccepts]
    by_cases hid : id = s.nextId
    · -- Nothing was left under the id, since it is handed out only now.
      have hnone : ¬ LeftWith log id n := fun hleft => hnew (hid ▸ hleft.mem_createdIds)
      rw [if_pos hid, Option.some.injEq, or_iff_left hnone, and_iff_right hid, eq_comm]
    · rw [if_neg hid, h.network, or_iff_right fun hsame => hid hsame.1]

theorem Replays.modify (h : s.Replays log) :
    (s.modify kind id nodes).Replays (log ++ [⟨.modify kind id, nodes⟩]) := by
  constructor
  · rw [calls_modify, h.calls, List.map_append, List.map_singleton]
  · rw [issued_modify, h.issued, createdIds_concat]
    exact (List.append_nil _).symm
  · rw [keys_modify, createdIds_concat]
    exact h.order.trans (List.sublist_append_left _ _)
  · intro id' n
    rw [leftWith_concat_modify, network?_modify, Option.map_eq_some_iff]
    simp only [h.network, eq_comm]

theorem Replays.delete (h : s.Replays log) :
    (s.delete kind id).Replays (log ++ [⟨.delete kind id, []⟩]) := by
  constructor
  · rw [calls_delete, h.calls, List.map_append, List.map_singleton]
  · rw [issued_delete, h.issued, createdIds_concat]
    exact (List.append_nil _).symm
  · rw [createdIds_concat]
    exact (keys_delete_sublist.trans h.order).trans (List.sublist_append_left _ _)
  · intro id' n
    rw [leftWith_concat_delete, network?_delete]
    by_cases hid : id' = id
    · simp [hid]
    · simp [hid, h.network]

theorem Replays.serve (h : s.Replays log) (haccepts : s.rejecting = false)
    (hfresh : (s.serve r).Fresh) : (s.serve r).Replays (log ++ [s.entryFor r]) := by
  cases r with
  | create kind nodes => exact h.create haccepts hfresh
  | modify kind id nodes => exact h.modify
  | delete kind id => exact h.delete

theorem fresh_of_serve (haccepts : s.rejecting = false) (hfresh : (s.serve r).Fresh) : s.Fresh :=
  hfresh.mono (issued_serve haccepts ▸ List.prefix_append _ _)

/-- The invariant holds after any calls, as long as the ids handed out are fresh. -/
theorem replays_serveAll {supply : Nat → NetworkId}
    (hfresh : ((opened false supply).serveAll requests).Fresh) :
    ((opened false supply).serveAll requests).Replays
      ((opened false supply).transcript requests) := by
  induction requests using List.reverseRecOn with
  | nil => exact replays_opened false supply
  | append_singleton front r ih =>
    rw [serveAll_concat] at hfresh ⊢
    rw [transcript_concat]
    have haccepts : ((opened false supply).serveAll front).rejecting = false := rejecting_serveAll
    exact (ih (fresh_of_serve haccepts hfresh)).serve haccepts hfresh

/-! ## Calls that go nowhere -/

theorem not_mem_keys_of_not_live (h : ¬ s.Live id) : id ∉ s.networks.keys :=
  OrderedMap.find?_eq_none_iff.1 (not_live_iff.1 h)

/-- A call that names an id that is not live changes no network. -/
theorem networks_serve_of_not_live (hid : r.target? = some id) (hlive : ¬ s.Live id) :
    (s.serve r).networks = s.networks := by
  have hnone := not_mem_keys_of_not_live hlive
  cases r with
  | create kind nodes => cases hid
  | modify kind id' nodes =>
    cases hid
    exact OrderedMap.modify_of_not_mem hnone fun n => n.replaceNodes nodes
  | delete kind id' =>
    cases hid
    exact OrderedMap.erase_of_not_mem hnone

/-! ## What a sink holds -/

theorem Replays.mem_keys_iff (h : s.Replays log) :
    id ∈ s.networks.keys ↔
      ∃ front kind nodes rest, log = front ++ ⟨.create kind id, nodes⟩ :: rest ∧
        ∀ entry ∈ rest, ¬ entry.Deletes id := by
  have hlive : id ∈ s.networks.keys ↔ ∃ n, s.network? id = some n := by
    rw [← not_iff_not, ← OrderedMap.find?_eq_none_iff]
    exact not_live_iff.symm
  rw [hlive]
  simp only [h.network]
  constructor
  · rintro ⟨_, front, kind, nodes, rest, hsplit, hdeletes, -⟩
    exact ⟨front, kind, nodes, rest, hsplit, hdeletes⟩
  · rintro ⟨front, kind, nodes, rest, hsplit, hdeletes⟩
    exact ⟨_, front, kind, nodes, rest, hsplit, hdeletes, rfl⟩

theorem revision_heldAfter {rest : List LoggedCall}
    (hfits : (modifications id rest).length < UInt32.size) :
    (heldAfter kind id nodes rest).revision = (modifications id rest).length :=
  UInt32.toNat_ofNat_of_lt' hfits

/-- After any calls on an accepting sink whose ids are fresh: every call was logged once; the live
networks are those created and not deleted later, in the order of their creation; each has its first
kind, the number of its modifications and the nodes that were brought last; and calls that name an
id that was not live at the time have changed no network. -/
theorem replay_of_calls {supply : Nat → NetworkId}
    (hfresh : ((opened false supply).serveAll requests).Fresh) :
    let s := (opened false supply).serveAll requests
    let log := (opened false supply).transcript requests
    (s.calls = log.map (·.call) ∧ s.issued = createdIds log) ∧
      (s.networks.keys.Sublist s.issued ∧
        ∀ id, id ∈ s.networks.keys ↔
          ∃ front kind nodes rest, log = front ++ ⟨.create kind id, nodes⟩ :: rest ∧
            ∀ entry ∈ rest, ¬ entry.Deletes id) ∧
      (∀ front kind id nodes rest, log = front ++ ⟨.create kind id, nodes⟩ :: rest →
        (∀ entry ∈ rest, ¬ entry.Deletes id) →
        ∃ n, s.network? id = some n ∧ n.kind = kind ∧
          n.nodes = (modifications id rest).getLastD nodes ∧
          ((modifications id rest).length < UInt32.size →
            n.revision = (modifications id rest).length)) ∧
      ∀ front r rest id, requests = front ++ r :: rest → r.target? = some id →
        ¬ ((opened false supply).serveAll front).Live id →
        ((opened false supply).serveAll (front ++ [r])).networks =
          ((opened false supply).serveAll front).networks := by
  intro s log
  have h : s.Replays log := replays_serveAll hfresh
  refine ⟨⟨h.calls, h.issued⟩, ⟨h.issued ▸ h.order, fun id => h.mem_keys_iff⟩, ?_, ?_⟩
  · intro front kind id nodes rest hsplit hdeletes
    refine ⟨heldAfter kind id nodes rest, (h.network id _).2 ?_, rfl, rfl, revision_heldAfter⟩
    exact ⟨front, kind, nodes, rest, hsplit, hdeletes, rfl⟩
  · intro front r rest id _ hid hlive
    rw [serveAll_concat]
    exact networks_serve_of_not_live hid hlive

end NetworkSink

def sampleNode (handle : String) : ShadingNode := ⟨.bxdf, handle, "Built.oso", ∅⟩

/-- Two networks, with calls for an id before it is created and after it is deleted, for no network,
and with the other kind. -/
def sampleCalls : List SinkRequest :=
  [.modify .material (.created 1) [sampleNode "A"], .create .material [sampleNode "A"],
    .create .displacement [sampleNode "B"], .delete .displacement (.created 0),
    .modify .material (.created 1) [sampleNode "C"], .delete .material .invalid,
    .modify .material (.created 0) [sampleNode "D"]]

theorem replay_of_sampleCalls :
    let s := (NetworkSink.opened false .created).serveAll sampleCalls
    s.Fresh ∧ ∃ n, s.network? (.created 1) = some n ∧ n.kind = .displacement ∧
      n.nodes = [sampleNode "C"] ∧ n.revision = 1 := by
  intro s
  have hfresh : s.Fresh := NetworkSink.fresh_of_numbered rfl
  obtain ⟨n, hn, hkind, hnodes, hrevision⟩ := (NetworkSink.replay_of_calls hfresh).2.2.1
    [⟨.modify .material (.created 1), [sampleNode "A"]⟩,
      ⟨.create .material (.created 0), [sampleNode "A"]⟩]
    .displacement (.created 1) [sampleNode "B"]
    [⟨.delete .displacement (.created 0), []⟩,
      ⟨.modify .material (.created 1), [sampleNode "C"]⟩, ⟨.delete .material .invalid, []⟩,
      ⟨.modify .material (.created 0), [sampleNode "D"]⟩]
    rfl (by simp [LoggedCall.Deletes])
  exact ⟨hfresh, n, hn, hkind, hnodes, hrevision (by decide)⟩

end ShadingGraph
