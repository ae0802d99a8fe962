import Mathlib.Logic.Function.Basic
import Mathlib.Logic.Relation
import ShadingGraph.Proofs.Renderer.Sink

/-!
# Who holds which network

Owners hold ids of a sink, each owner at most one for each kind of network. A move is one call of
the sink together with what becomes of the one id that the call is about. Whatever moves are made,
the live networks of the sink stay matched with the valid ids that are held.

## Main definitions

- `Holdings` — who holds which id, and the sink
- `Holdings.Owned` — the invariant: live networks and valid ids are matched one to one
- `Holdings.Move`, `Holdings.Moves` — one call on behalf of an owner, and sequences of calls

## Main results

- `Holdings.Moves.keeps` — what every move keeps, a sequence of moves keeps
- `Holdings.Owned.move`, `Holdings.Owned.moves` — the invariant is kept
- `Holdings.Move.held_of_ne`, `Holdings.Moves.held_of_not_owner` — what others hold
-/

namespace ShadingGraph

variable {ι : Type}

/-- Who holds which id of a sink. Every owner has a place for each kind of network. -/
structure Holdings (ι : Type) where
  slot : ι × NetworkKind → NetworkId
  sink : NetworkSink

namespace Holdings

variable {owners owners' : ι → Prop} {p q : ι × NetworkKind} {h h' : Holdings ι}
  {kind : NetworkKind} {nodes : List ShadingNode} {id : NetworkId}

/-- The network that the sink has for a place. -/
def held (h : Holdings ι) (p : ι × NetworkKind) : Option CommittedNetwork :=
  h.sink.network? (h.slot p)

/-! ## Ownership -/

/-- The live networks of the sink and the valid ids that are held are matched one to one, kind by
kind. -/
structure Owned (h : Holdings ι) : Prop where
  /-- Every live network is held. -/
  held_of_live : ∀ id, h.sink.Live id → ∃ p, h.slot p = id
  /-- Every valid id that is held names a live network of the right kind. -/
  live_of_valid : ∀ p, (h.slot p).isValid = true → ∃ n, h.held p = some n ∧ n.kind = p.2
  /-- No valid id is held twice. -/
  apart : ∀ p q, (h.slot p).isValid = true → h.slot p = h.slot q → p = q
  /-- Every live network was created by the sink. -/
  issued_of_live : ∀ id, h.sink.Live id → id ∈ h.sink.issued
  /-- Nothing is held of a sink that rejects creations. -/
  free_of_rejecting : h.sink.rejecting = true → ∀ p, h.slot p = .invalid

namespace Owned

theorem isValid_of_live (howned : h.Owned) (hfresh : h.sink.Fresh) (hlive : h.sink.Live id) :
    id.isValid = true :=
  hfresh.valid id (howned.issued_of_live id hlive)

/-- The sink has a network for a place exactly if the id held there is valid. -/
theorem isValid_eq (howned : h.Owned) (hfresh : h.sink.Fresh) :
    (h.slot p).isValid = (h.held p).isSome := by
  rw [Bool.eq_iff_iff]
  constructor
  · intro hvalid
    obtain ⟨n, hn, -⟩ := howned.live_of_valid p hvalid
    rw [hn]
    rfl
  · intro hsome
    exact howned.isValid_of_live hfresh (Option.isSome_iff_exists.1 hsome)

theorem issued_of_valid (howned : h.Owned) (hvalid : (h.slot p).isValid = true) :
    h.slot p ∈ h.sink.issued := by
  obtain ⟨n, hn, -⟩ := howned.live_of_valid p hvalid
  exact howned.issued_of_live (h.slot p) ⟨n, hn⟩

theorem held_eq_none_iff (howned : h.Owned) (hfresh : h.sink.Fresh) :
    h.held p = none ↔ h.slot p = .invalid := by
  rw [← NetworkId.isValid_eq_false_iff, howned.isValid_eq hfresh, Option.isSome_eq_false_iff,
    Option.isNone_iff_eq_none]

/-- An id that was not handed out yet is held nowhere. -/
theorem slot_ne_nextId (howned : h.Owned) (hfresh : (h.sink.create kind nodes).2.Fresh)
    (haccepts : h.sink.rejecting = false) : h.slot p ≠ h.sink.nextId := by
  intro heq
  have hvalid : (h.slot p).isValid = true := heq ▸ hfresh.isValid_nextId haccepts
  exact hfresh.nextId_not_mem haccepts (heq ▸ howned.issued_of_valid hvalid)

/-- Nothing is held before the first call. -/
theorem opened (rejecting : Bool) (supply : Nat → NetworkId) :
    Owned (ι := ι) ⟨fun _ => .invalid, .opened rejecting supply⟩ where
  held_of_live id hlive := by
    obtain ⟨n, hn⟩ := hlive
    cases hn
  live_of_valid p hvalid := by cases hvalid
  apart p q hvalid := by cases hvalid
  issued_of_live id hlive := by
    obtain ⟨n, hn⟩ := hlive
    cases hn
  free_of_rejecting _ _ := rfl

theorem slot_ne_slot (howned : h.Owned) (hvalid : (h.slot p).isValid = true) (hne : q ≠ p) :
    h.slot q ≠ h.slot p :=
  fun heq => hne (howned.apart p q hvalid heq.symm).symm

theorem reject (howned : h.Owned) (hrejects : h.sink.rejecting = true) :
    Owned { h with sink := (h.sink.create p.2 nodes).2 } where
  held_of_live id hlive :=
    howned.held_of_live id ((NetworkSink.live_create_of_rejecting hrejects).1 hlive)
  live_of_valid q hvalid := by
    rw [howned.free_of_rejecting hrejects q] at hvalid
    cases hvalid
  apart := howned.apart
  issued_of_live id hlive := by
    rw [NetworkSink.issued_create_of_rejecting hrejects]
    exact howned.issued_of_live id ((NetworkSink.live_create_of_rejecting hrejects).1 hlive)
  free_of_rejecting _ := howned.free_of_rejecting hrejects

theorem modify (howned : h.Owned) :
    Owned { h with sink := h.sink.modify p.2 (h.slot p) nodes } where
  held_of_live id hlive := howned.held_of_live id (NetworkSink.live_modify.1 hlive)
  live_of_valid q hvalid := by
    obtain ⟨n, hn, hkind⟩ := howned.live_of_valid q hvalid
    rw [held] at hn ⊢
    rw [NetworkSink.network?_modify, hn]
    refine ⟨_, rfl, ?_⟩
    split
    · exact hkind
    · exact hkind
  apart := howned.apart
  issued_of_live id hlive := howned.issued_of_live id (NetworkSink.live_modify.1 hlive)
  free_of_rejecting := howned.free_of_rejecting

end Owned

/-! ## Moves -/

variable [DecidableEq ι]

/-- Another id at a place, and the sink as it is then. -/
def assign (h : Holdings ι) (p : ι × NetworkKind) (id : NetworkId) (sink : NetworkSink) :
    Holdings ι :=
  ⟨Function.update h.slot p id, sink⟩

@[simp] theorem sink_assign {sink : NetworkSink} : (h.assign p id sink).sink = sink := rfl

@[simp] theorem slot_assign_self {sink : NetworkSink} : (h.assign p id sink).slot p = id :=
  Function.update_self _ _ _

theorem slot_assign_of_ne {sink : NetworkSink} (hne : q ≠ p) :
    (h.assign p id sink).slot q = h.slot q :=
  Function.update_of_ne hne _ _

theorem assign_slot {sink : NetworkSink} : h.assign p (h.slot p) sink = { h with sink } := by
  rw [assign, Function.update_eq_self]

/-- One call of the sink on behalf of a place, or none. -/
inductive Move (p : ι × NetworkKind) (h : Holdings ι) : Holdings ι → Prop where
  | pass : Move p h h
  | create (nodes : List ShadingNode) (hfree : h.slot p = .invalid)
    (haccepts : h.sink.rejecting = false) :
    Move p h (h.assign p h.sink.nextId (h.sink.create p.2 nodes).2)
  | reject (nodes : List ShadingNode) (hfree : h.slot p = .invalid)
    (hrejects : h.sink.rejecting = true) :
    Move p h { h with sink := (h.sink.create p.2 nodes).2 }
  | modify (nodes : List ShadingNode) (hvalid : (h.slot p).isValid = true) :
    Move p h { h with sink := h.sink.modify p.2 (h.slot p) nodes }
  | delete (hvalid : (h.slot p).isValid = true) :
    Move p h (h.assign p .invalid (h.sink.delete p.2 (h.slot p)))

/-- Moves of some of the owners, one after the other. -/
def Moves (owners : ι → Prop) : Holdings ι → Holdings ι → Prop :=
  Relation.ReflTransGen fun h h' => ∃ p, owners p.1 ∧ Move p h h'

theorem Move.moves (hmove : Move p h h') (howner : owners p.1) : Moves owners h h' :=
  .single ⟨p, howner, hmove⟩

theorem Moves.trans {h'' : Holdings ι} (hmoves : Moves owners h h')
    (hmoves' : Moves owners h' h'') : Moves owners h h'' :=
  Relation.ReflTransGen.trans hmoves hmoves'

theorem Moves.mono (hmoves : Moves owners h h') (himp : ∀ i, owners i → owners' i) :
    Moves owners' h h' := by
  refine Relation.ReflTransGen.mono ?_ _ _ hmoves
  rintro h h' ⟨p, howner, hmove⟩
  exact ⟨p, himp p.1 howner, hmove⟩

theorem Move.issued_prefix_issued (hmove : Move p h h') : h.sink.issued <+: h'.sink.issued := by
  cases hmove with
  | pass => exact List.prefix_rfl
  | create nodes hfree haccepts =>
    rw [sink_assign, NetworkSink.issued_create haccepts]
    exact List.prefix_append _ _
  | reject nodes hfree hrejects =>
    simp only [NetworkSink.issued_create_of_rejecting hrejects]
    exact List.prefix_rfl
  | modify nodes hvalid => exact List.prefix_rfl
  | delete hvalid => exact List.prefix_rfl

/-- What every move keeps, as long as ids are fresh, a sequence of moves keeps. -/
theorem Moves.keeps {P : Holdings ι → Prop}
    (hkeep : ∀ {p h h'}, owners p.1 → Move p h h' → h'.sink.Fresh → P h → P h')
    (hmoves : Moves owners h h') (hfresh : h'.sink.Fresh) (hP : P h) : P h' := by
  induction hmoves with
  | refl => exact hP
  | tail _ hlast ih =>
    obtain ⟨p, howner, hmove⟩ := hlast
    exact hkeep howner hmove hfresh (ih (hfresh.mono hmove.issued_prefix_issued))

theorem Moves.issued_prefix_issued (hmoves : Moves owners h h') :
    h.sink.issued <+: h'.sink.issued := by
  induction hmoves with
  | refl => exact List.prefix_rfl
  | tail _ hlast ih =>
    obtain ⟨p, -, hmove⟩ := hlast
    exact ih.trans hmove.issued_prefix_issued

theorem Moves.fresh (hmoves : Moves owners h h') (hfresh : h'.sink.Fresh) : h.sink.Fresh :=
  hfresh.mono hmoves.issued_prefix_issued

theorem Move.rejecting_eq (hmove : Move p h h') : h'.sink.rejecting = h.sink.rejecting := by
  cases hmove <;> simp

theorem Moves.rejecting_eq (hmoves : Moves owners h h') :
    h'.sink.rejecting = h.sink.rejecting := by
  induction hmoves with
  | refl => rfl
  | tail _ hlast ih =>
    obtain ⟨p, -, hmove⟩ := hlast
    exact hmove.rejecting_eq.trans ih

theorem Moves.supply_eq (hmoves : Moves owners h h') : h'.sink.supply = h.sink.supply := by
  induction hmoves with
  | refl => rfl
  | tail _ hlast ih =>
    obtain ⟨p, -, hmove⟩ := hlast
    rw [← ih]
    cases hmove <;> simp

/-! ## What a move leaves alone -/

/-- A move changes neither the id nor the network of any other place. -/
theorem Move.held_of_ne (hmove : Move p h h') (howned : h.Owned) (hfresh : h'.sink.Fresh)
    (hne : q ≠ p) : h'.slot q = h.slot q ∧ h'.held q = h.held q := by
  cases hmove with
  | pass => exact ⟨rfl, rfl⟩
  | create nodes hfree haccepts =>
    refine ⟨slot_assign_of_ne hne, ?_⟩
    rw [held, slot_assign_of_ne hne, sink_assign, NetworkSink.network?_create haccepts,
      if_neg (howned.slot_ne_nextId hfresh haccepts), held]
  | reject nodes hfree hrejects =>
    exact ⟨rfl, NetworkSink.network?_create_of_rejecting hrejects⟩
  | modify nodes hvalid =>
    refine ⟨rfl, ?_⟩
    simp only [held, NetworkSink.network?_modify, howned.slot_ne_slot hvalid hne, if_false,
      Option.map_id']
  | delete hvalid =>
    refine ⟨slot_assign_of_ne hne, ?_⟩
    rw [held, slot_assign_of_ne hne, sink_assign, NetworkSink.network?_delete,
      if_neg (howned.slot_ne_slot hvalid hne), held]

/-! ## Ownership is kept -/

namespace Owned

theorem create (howned : h.Owned) (hfree : h.slot p = .invalid)
    (haccepts : h.sink.rejecting = false) (hfresh : (h.sink.create p.2 nodes).2.Fresh) :
    (h.assign p h.sink.nextId (h.sink.create p.2 nodes).2).Owned where
  held_of_live id hlive := by
    rcases (NetworkSink.live_create haccepts).1 hlive with hnew | hold
    · exact ⟨p, slot_assign_self.trans hnew.symm⟩
    · obtain ⟨q, rfl⟩ := howned.held_of_live id hold
      have hbefore := hfresh.mono (Move.create nodes hfree haccepts).issued_prefix_issued
      have hvalid := howned.isValid_of_live hbefore hold
      have hne : q ≠ p := by
        rintro rfl
        rw [hfree] at hvalid
        cases hvalid
      exact ⟨q, slot_assign_of_ne hne⟩
  live_of_valid q hvalid := by
    by_cases hq : q = p
    · subst hq
      refine ⟨⟨q.2, nodes, 0⟩, ?_, rfl⟩
      rw [held, slot_assign_self, sink_assign, NetworkSink.network?_create haccepts, if_pos rfl]
    · obtain ⟨hslot, hheld⟩ := (Move.create nodes hfree haccepts).held_of_ne howned hfresh hq
      rw [hslot] at hvalid
      rw [hheld]
      exact howned.live_of_valid q hvalid
  apart q r hvalid heq := by
    -- The new id differs from every id that was held before.
    by_cases hq : q = p
    · by_cases hr : r = p
      · rw [hq, hr]
      · rw [hq, slot_assign_self, slot_assign_of_ne hr] at heq
        exact absurd heq.symm (howned.slot_ne_nextId hfresh haccepts)
    · rw [slot_assign_of_ne hq] at hvalid heq
      by_cases hr : r = p
      · rw [hr, slot_assign_self] at heq
        exact absurd heq (howned.slot_ne_nextId hfresh haccepts)
      · rw [slot_assign_of_ne hr] at heq
        exact howned.apart q r hvalid heq
  issued_of_live id hlive := by
    rw [sink_assign, NetworkSink.issued_create haccepts, List.mem_append]
    rcases (NetworkSink.live_create haccepts).1 hlive with hnew | hold
    · exact Or.inr (List.mem_singleton.2 hnew)
    · exact Or.inl (howned.issued_of_live id hold)
  free_of_rejecting hrejects := by
    rw [sink_assign, NetworkSink.rejecting_create, haccepts] at hrejects
    cases hrejects

theorem delete (howned : h.Owned) (hvalid : (h.slot p).isValid = true)
    (hfresh : (h.sink.delete p.2 (h.slot p)).Fresh) :
    (h.assign p .invalid (h.sink.delete p.2 (h.slot p))).Owned := by
  have hne : ∀ {q}, ((h.assign p .invalid (h.sink.delete p.2 (h.slot p))).slot q).isValid = true →
      q ≠ p := by
    rintro q hq rfl
    rw [slot_assign_self] at hq
    cases hq
  constructor
  · intro id hlive
    obtain ⟨hother, hlive⟩ := NetworkSink.live_delete.1 hlive
    obtain ⟨q, rfl⟩ := howned.held_of_live id hlive
    exact ⟨q, slot_assign_of_ne fun heq => hother (heq ▸ rfl)⟩
  · intro q hq
    obtain ⟨hslot, hheld⟩ := (Move.delete hvalid).held_of_ne howned hfresh (hne hq)
    rw [hslot] at hq
    rw [hheld]
    exact howned.live_of_valid q hq
  · intro q r hq heq
    have hr := hne (heq ▸ hq)
    rw [slot_assign_of_ne (hne hq), slot_assign_of_ne hr] at heq
    rw [slot_assign_of_ne (hne hq)] at hq
    exact howned.apart q r hq heq
  · intro id hlive
    exact howned.issued_of_live id (NetworkSink.live_delete.1 hlive).2
  · intro hrejects
    rw [howned.free_of_rejecting hrejects p] at hvalid
    cases hvalid

theorem move (howned : h.Owned) (hmove : Move p h h') (hfresh : h'.sink.Fresh) : h'.Owned := by
  cases hmove with
  | pass => exact howned
  | create nodes hfree haccepts => exact howned.create hfree haccepts hfresh
  | reject nodes hfree hrejects => exact howned.reject hrejects
  | modify nodes hvalid => exact howned.modify
  | delete hvalid => exact howned.delete hvalid hfresh

theorem moves (howned : h.Owned) (hmoves : Moves owners h h') (hfresh : h'.sink.Fresh) :
    h'.Owned :=
  hmoves.keeps (fun _ hmove hfresh howned => howned.move hmove hfresh) hfresh howned

end Owned

/-! ## Sequences of moves -/

/-- Moves of some owners leave alone what the others hold. -/
theorem Moves.held_of_not_owner (hmoves : Moves owners h h') (howned : h.Owned)
    (hfresh : h'.sink.Fresh) (hq : ¬ owners q.1) : h'.slot q = h.slot q ∧ h'.held q = h.held q := by
  induction hmoves with
  | refl => exact ⟨rfl, rfl⟩
  | tail hfirst hlast ih =>
    obtain ⟨p, howner, hmove⟩ := hlast
    have hmid := hfresh.mono hmove.issued_prefix_issued
    -- The last move is made for one of the owners, so it is about another place.
    have hne : q ≠ p := by
      rintro rfl
      exact hq howner
    obtain ⟨hslot, hheld⟩ := hmove.held_of_ne (howned.moves hfirst hmid) hfresh hne
    obtain ⟨hslot', hheld'⟩ := ih hmid
    exact ⟨hslot.trans hslot', hheld.trans hheld'⟩

/-- An id that is held after some moves was held there before, or is invalid, or is new. -/
theorem Moves.slot_cases (hmoves : Moves owners h h') (hfresh : h'.sink.Fresh)
    (p : ι × NetworkKind) :
    h'.slot p = h.slot p ∨ h'.slot p = .invalid ∨ h'.slot p ∉ h.sink.issued := by
  induction hmoves with
  | refl => exact Or.inl rfl
  | tail hfirst hlast ih =>
    obtain ⟨q, -, hmove⟩ := hlast
    have hmid := ih (hfresh.mono hmove.issued_prefix_issued)
    have hissued := Moves.issued_prefix_issued hfirst
    cases hmove with
    | pass => exact hmid
    | create nodes hfree haccepts =>
      by_cases hp : p = q
      · subst hp
        rw [slot_assign_self]
        exact Or.inr (Or.inr fun hmem => hfresh.nextId_not_mem haccepts (hissued.subset hmem))
      · rw [slot_assign_of_ne hp]
        exact hmid
    | reject nodes hfree hrejects => exact hmid
    | modify nodes hvalid => exact hmid
    | delete hvalid =>
      by_cases hp : p = q
      · subst hp
        rw [slot_assign_self]
        exact Or.inr (Or.inl rfl)
      · rw [slot_assign_of_ne hp]
        exact hmid

end Holdings

end ShadingGraph
