import ShadingGraph.Renderer.Sink

/-!
# What the calls of a sink do

Each call changes the table of live networks at one id, and is logged. The ids that a sink hands out
come from its supply; what is said about a run of calls depends on their being new.

## Main definitions

- `NetworkSink.Live` — an id names a network
- `NetworkSink.issued`, `NetworkSink.Fresh` — the ids handed out so far, and that each was new
- `NetworkSink.callsOn` — the calls that name an id

## Main results

- `NetworkSink.network?_create`, `NetworkSink.network?_modify`, `NetworkSink.network?_delete` — the
  table after a call
- `NetworkSink.Fresh.nextId_not_mem` — a creation hands out an id that was not handed out before
-/

namespace ShadingGraph

namespace NetworkId

@[simp] theorem isValid_invalid : invalid.isValid = false := rfl

theorem isValid_iff {id : NetworkId} : id.isValid = true ↔ id ≠ .invalid := by
  cases id with
  | invalid => simp
  | created n => simp [isValid]

theorem isValid_eq_false_iff {id : NetworkId} : id.isValid = false ↔ id = .invalid := by
  rw [← Bool.not_eq_true, isValid_iff, Decidable.not_not]

end NetworkId

/-- The id that a call names. -/
def SinkCall.id : SinkCall → NetworkId
  | .create _ id | .modify _ id | .delete _ id => id

namespace NetworkSink

variable {s : NetworkSink} {kind : NetworkKind} {id id' : NetworkId} {nodes : List ShadingNode}

/-! ## The table -/

def Live (s : NetworkSink) (id : NetworkId) : Prop := ∃ n, s.network? id = some n

theorem not_live_iff : ¬ s.Live id ↔ s.network? id = none := by
  rw [Live, not_exists, Option.eq_none_iff_forall_ne_some]

theorem entries_eq_nil_of_not_live (h : ∀ id, ¬ s.Live id) : s.networks.entries = [] := by
  cases hentries : s.networks.entries with
  | nil => rfl
  | cons e rest =>
    refine absurd ⟨e.2, ?_⟩ (h e.1)
    rw [network?, OrderedMap.find?, hentries, OrderedMap.lookup, if_pos rfl]

theorem create_of_rejecting (h : s.rejecting = true) :
    s.create kind nodes = (.invalid, s.log (.create kind .invalid)) := by
  rw [create, if_pos h]

theorem fst_create_of_accepting (h : s.rejecting = false) :
    (s.create kind nodes).1 = s.nextId := by
  rw [create, if_neg (by simp [h])]

theorem network?_create_of_rejecting (h : s.rejecting = true) :
    (s.create kind nodes).2.network? id = s.network? id := by
  rw [create_of_rejecting h]
  rfl

theorem network?_create (h : s.rejecting = false) :
    (s.create kind nodes).2.network? id =
      if id = s.nextId then some ⟨kind, nodes, 0⟩ else s.network? id := by
  rw [create, if_neg (by simp [h])]
  exact OrderedMap.find?_insert _ _ _ _

theorem network?_modify :
    (s.modify kind id nodes).network? id' =
      (s.network? id').map fun n => if id' = id then n.replaceNodes nodes else n :=
  OrderedMap.find?_modify _ _ _ _

theorem network?_delete :
    (s.delete kind id).network? id' = if id' = id then none else s.network? id' :=
  OrderedMap.find?_erase _ _ _

theorem live_create_of_rejecting (h : s.rejecting = true) :
    (s.create kind nodes).2.Live id ↔ s.Live id := by
  rw [Live, network?_create_of_rejecting h, Live]

theorem live_create (h : s.rejecting = false) :
    (s.create kind nodes).2.Live id ↔ id = s.nextId ∨ s.Live id := by
  rw [Live, network?_create h, Live]
  by_cases hnew : id = s.nextId
  · simp [hnew]
  · simp [hnew]

theorem live_modify : (s.modify kind id nodes).Live id' ↔ s.Live id' := by
  rw [Live, network?_modify, Live]
  cases s.network? id' with
  | none => simp
  | some n => simp

theorem live_delete : (s.delete kind id).Live id' ↔ id' ≠ id ∧ s.Live id' := by
  rw [Live, network?_delete, Live]
  by_cases hsame : id' = id
  · simp [hsame]
  · simp [hsame]

/-! ## The log -/

/-- The calls that name an id, in order. -/
def callsOn (s : NetworkSink) (id : NetworkId) : List SinkCall :=
  s.calls.filter fun call => decide (call.id = id)

@[simp] theorem calls_create :
    (s.create kind nodes).2.calls = s.calls ++ [.create kind (s.create kind nodes).1] := by
  unfold create
  split <;> rfl

@[simp] theorem calls_modify :
    (s.modify kind id nodes).calls = s.calls ++ [.modify kind id] := rfl

@[simp] theorem calls_delete : (s.delete kind id).calls = s.calls ++ [.delete kind id] := rfl

/-! ## What no call changes -/

@[simp] theorem rejecting_create : (s.create kind nodes).2.rejecting = s.rejecting := by
  unfold create
  split <;> rfl

@[simp] theorem rejecting_modify : (s.modify kind id nodes).rejecting = s.rejecting := rfl

@[simp] theorem rejecting_delete : (s.delete kind id).rejecting = s.rejecting := rfl

@[simp] theorem supply_create : (s.create kind nodes).2.supply = s.supply := by
  unfold create
  split <;> rfl

@[simp] theorem supply_modify : (s.modify kind id nodes).supply = s.supply := rfl

@[simp] theorem supply_delete : (s.delete kind id).supply = s.supply := rfl

/-! ## The ids handed out -/

/-- The ids that creations have handed out so far, in order. -/
def issued (s : NetworkSink) : List NetworkId := (List.range s.created).map s.supply

/-- Every id that was handed out so far is valid, and had not been handed out before. -/
structure Fresh (s : NetworkSink) : Prop where
  valid : ∀ id ∈ s.issued, id.isValid = true
  nodup : s.issued.Nodup

@[simp] theorem issued_modify : (s.modify kind id nodes).issued = s.issued := rfl

@[simp] theorem issued_delete : (s.delete kind id).issued = s.issued := rfl

theorem issued_create_of_rejecting (h : s.rejecting = true) :
    (s.create kind nodes).2.issued = s.issued := by
  rw [create_of_rejecting h]
  rfl

theorem issued_create (h : s.rejecting = false) :
    (s.create kind nodes).2.issued = s.issued ++ [s.nextId] := by
  rw [create, if_neg (by simp [h])]
  simp [issued, log, nextId, List.range_succ]

theorem Fresh.mono {s' : NetworkSink} (h : s'.Fresh) (hissued : s.issued <+: s'.issued) :
    s.Fresh where
  valid id hid := h.valid id (hissued.subset hid)
  nodup := h.nodup.sublist hissued.sublist

theorem Fresh.isValid_nextId (h : (s.create kind nodes).2.Fresh) (haccepts : s.rejecting = false) :
    s.nextId.isValid = true :=
  h.valid s.nextId (by simp [issued_create haccepts])

theorem Fresh.nextId_not_mem (h : (s.create kind nodes).2.Fresh) (haccepts : s.rejecting = false) :
    s.nextId ∉ s.issued := by
  have hnodup := h.nodup
  rw [issued_create haccepts, List.nodup_append] at hnodup
  intro hmem
  exact hnodup.2.2 s.nextId hmem s.nextId (List.mem_singleton_self _) rfl

/-- Numbers that count up make fresh ids. -/
theorem fresh_of_numbered (h : s.supply = .created) : s.Fresh where
  valid id hid := by
    rw [issued, h, List.mem_map] at hid
    obtain ⟨n, -, rfl⟩ := hid
    rfl
  nodup := by
    rw [issued, h]
    refine List.Pairwise.map _ ?_ List.nodup_range
    intro m n hne heq
    exact hne (NetworkId.created.inj heq)

end NetworkSink

end ShadingGraph
