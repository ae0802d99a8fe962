import Mathlib.Data.List.Induction
import ShadingGraph.Proofs.Renderer.Holdings
import ShadingGraph.Renderer.Material

/-!
# What a sync does to the networks of a material

A sync commits the terminals that convert, one after the other, and then releases what no terminal
feeds. Each of these makes a move for one place of the material. What the sink has for the material
in the end is what the feeding terminals make of what it had before, in the order of the terminals.

## Main definitions

- `Holdings.put`, `Holdings.during` — the holdings with one material and the sink as they are in a
  sync
- `NetworkKind.terminals` — the names of the terminals that feed the network of a kind
- `ShaderCatalog.feed?`, `ShaderCatalog.feeds`, `SyncSettings.feeds` — what terminals have for the
  network of a kind
- `NetworkKind.recommit` — the network of a kind after one more commit

## Main results

- `terminalKind?_eq_some_iff`, `terminalKind?_eq_none_iff` — the names that terminals are told by
- `Holdings.moves_foldl_terminal`, `Holdings.moves_releaseAll` — a sync makes moves of its material
- `Holdings.held_foldl_terminal`, `Holdings.held_releaseAll` — what the sink has in the end
-/

namespace ShadingGraph

variable {ι : Type}

/-! ## The ids of a material -/

namespace Material

variable {m : Material} {sink : NetworkSink} {kind kind' : NetworkKind} {id : NetworkId}
  {nodes : List ShadingNode}

theorem slot_setSlot :
    (m.setSlot kind id).slot kind' = if kind' = kind then id else m.slot kind' := by
  cases kind <;> cases kind' <;> rfl

theorem id_setSlot : (m.setSlot kind id).id = m.id := by
  cases kind <;> rfl

theorem commit_of_valid (h : (m.slot kind).isValid = true) :
    m.commit sink kind nodes = (m, sink.modify kind (m.slot kind) nodes) := by
  rw [commit, if_pos h]

theorem commit_of_free (h : m.slot kind = .invalid) :
    m.commit sink kind nodes =
      (m.setSlot kind (sink.create kind nodes).1, (sink.create kind nodes).2) := by
  rw [commit, h, NetworkId.isValid_invalid, if_neg Bool.false_ne_true]

theorem release_of_valid (h : (m.slot kind).isValid = true) :
    m.release sink kind = (m.setSlot kind .invalid, sink.delete kind (m.slot kind)) := by
  rw [release, if_pos h]

theorem release_of_free (h : m.slot kind = .invalid) : m.release sink kind = (m, sink) := by
  rw [release, h, NetworkId.isValid_invalid, if_neg Bool.false_ne_true]

theorem id_commit : (m.commit sink kind nodes).1.id = m.id := by
  unfold commit
  split
  · rfl
  · exact id_setSlot

theorem id_release : (m.release sink kind).1.id = m.id := by
  unfold release
  split
  · exact id_setSlot
  · rfl

theorem slot_release_of_ne (h : kind' ≠ kind) :
    (m.release sink kind).1.slot kind' = m.slot kind' := by
  unfold release
  split
  · rw [slot_setSlot, if_neg h]
  · rfl

theorem slot_commit_of_ne (h : kind' ≠ kind) :
    (m.commit sink kind nodes).1.slot kind' = m.slot kind' := by
  unfold commit
  split
  · rfl
  · rw [slot_setSlot, if_neg h]

/-- A commit keeps the ids that are valid. -/
theorem slot_commit_of_valid (h : (m.slot kind').isValid = true) :
    (m.commit sink kind nodes).1.slot kind' = m.slot kind' := by
  unfold commit
  split
  · rfl
  · rename_i hfree
    have hne : kind' ≠ kind := by
      rintro rfl
      exact hfree h
    rw [slot_setSlot, if_neg hne]

end Material

/-! ## Terminals -/

/-- The names of the terminals that feed the network of a kind. -/
def NetworkKind.terminals : NetworkKind → List String
  | .material => ["surface", "volume"]
  | .displacement => ["displacement"]

theorem NetworkKind.exists_mem_terminals_iff {name : String} :
    (∃ kind : NetworkKind, name ∈ kind.terminals) ↔
      name ∈ ["surface", "volume", "displacement"] := by
  constructor
  · rintro ⟨kind, hname⟩
    cases kind with
    | material => exact List.mem_append_left ["displacement"] hname
    | displacement => exact List.mem_append_right ["surface", "volume"] hname
  · intro hname
    rcases List.mem_append.1 (show name ∈ ["surface", "volume"] ++ ["displacement"] from hname) with
      hmaterial | hdisplacement
    · exact ⟨.material, hmaterial⟩
    · exact ⟨.displacement, hdisplacement⟩

theorem terminalKind?_eq_some_iff {name : String} {kind : NetworkKind} :
    terminalKind? name = some kind ↔ name ∈ kind.terminals := by
  constructor
  · intro hkind
    unfold terminalKind? at hkind
    split at hkind <;> cases hkind <;> decide
  · intro hname
    cases kind with
    | material =>
      rcases List.mem_cons.1 hname with rfl | hvolume
      · rfl
      · obtain rfl := List.mem_singleton.1 hvolume
        rfl
    | displacement =>
      obtain rfl := List.mem_singleton.1 hname
      rfl

theorem terminalKind?_eq_none_iff {name : String} :
    terminalKind? name = none ↔ name ∉ ["surface", "volume", "displacement"] := by
  rw [← NetworkKind.exists_mem_terminals_iff, not_exists, Option.eq_none_iff_forall_ne_some]
  simp only [ne_eq, terminalKind?_eq_some_iff]

/-- What a terminal has for the network of a kind: its nodes, if it feeds that network and
converts. -/
def ShaderCatalog.feed? (c : ShaderCatalog) (net : MaterialNetwork) (kind : NetworkKind)
    (e : String × Connection) : Option (List ShadingNode) :=
  if e.1 ∈ kind.terminals then (c.convert net e.2.node).toOption else none

/-- What the terminals of a network have for the network of a kind, in order. -/
def ShaderCatalog.feeds (c : ShaderCatalog) (net : MaterialNetwork) (kind : NetworkKind) :
    List (List ShadingNode) :=
  net.terminals.entries.filterMap (c.feed? net kind)

namespace SyncSettings

/-- The network that the filters make of the resource of a material. -/
def filtered (settings : SyncSettings) (registry : ShaderRegistry) (materialId : String)
    (resource : MaterialNetwork) : MaterialNetwork :=
  (settings.filters.execute (settings.catalog registry) materialId resource).1

/-- What the terminals of the filtered network have for the network of a kind, in order. -/
def feeds (settings : SyncSettings) (registry : ShaderRegistry) (materialId : String)
    (resource : MaterialNetwork) (kind : NetworkKind) : List (List ShadingNode) :=
  (settings.catalog registry).feeds (settings.filtered registry materialId resource) kind

end SyncSettings

section

variable {c : ShaderCatalog} {net : MaterialNetwork} {e : String × Connection}
  {kind kind' : NetworkKind} {nodes : List ShadingNode}

theorem ShaderCatalog.feed?_of_error {cause : ConversionError}
    (h : c.convert net e.2.node = .error cause) : c.feed? net kind e = none := by
  rw [feed?, h]
  split <;> rfl

theorem ShaderCatalog.feed?_of_idle (h : terminalKind? e.1 = none) : c.feed? net kind e = none := by
  rw [feed?, if_neg (by rw [← terminalKind?_eq_some_iff, h]; exact nofun)]

theorem ShaderCatalog.feed?_of_kind (h : c.convert net e.2.node = .ok nodes)
    (hkind : terminalKind? e.1 = some kind) :
    c.feed? net kind' e = if kind' = kind then some nodes else none := by
  simp only [feed?, h, ← terminalKind?_eq_some_iff, hkind, Option.some.injEq, eq_comm]
  rfl

end

/-- The network of a kind after one more commit: replaced if there is one, else created unless the
sink rejects that. -/
def NetworkKind.recommit (kind : NetworkKind) (rejecting : Bool) (before : Option CommittedNetwork)
    (nodes : List ShadingNode) : Option CommittedNetwork :=
  match before with
  | some n => some (n.replaceNodes nodes)
  | none => if rejecting then none else some ⟨kind, nodes, 0⟩

namespace SyncState

variable {c : ShaderCatalog} {net : MaterialNetwork} {st : SyncState} {e : String × Connection}
  {kind : NetworkKind} {nodes : List ShadingNode}

theorem terminal_of_error {cause : ConversionError}
    (h : c.convert net e.2.node = .error cause) :
    st.terminal c net e =
      { st with report := st.report.fail (.conversion st.material.id e.1 cause) } := by
  simp only [terminal, h]

theorem terminal_of_idle (h : c.convert net e.2.node = .ok nodes)
    (hkind : terminalKind? e.1 = none) : st.terminal c net e = st := by
  simp only [terminal, h, hkind]

theorem terminal_of_kind (h : c.convert net e.2.node = .ok nodes)
    (hkind : terminalKind? e.1 = some kind) :
    st.terminal c net e =
      { material := (st.material.commit st.sink kind nodes).1
        sink := (st.material.commit st.sink kind nodes).2
        report :=
          if ((st.material.commit st.sink kind nodes).1.slot kind).isValid then
            st.report.commit e.1 kind
          else st.report.fail (.createFailed st.material.id kind)
        fed := kind :: st.fed } := by
  simp only [terminal, h, hkind]

/-- What one terminal does. -/
theorem terminal_cases (c : ShaderCatalog) (net : MaterialNetwork) (st : SyncState)
    (e : String × Connection) :
    (∃ cause, c.convert net e.2.node = .error cause ∧
        st.terminal c net e =
          { st with report := st.report.fail (.conversion st.material.id e.1 cause) }) ∨
      (∃ nodes, c.convert net e.2.node = .ok nodes ∧ terminalKind? e.1 = none ∧
        st.terminal c net e = st) ∨
      ∃ nodes kind, c.convert net e.2.node = .ok nodes ∧ terminalKind? e.1 = some kind ∧
        st.terminal c net e =
          { material := (st.material.commit st.sink kind nodes).1
            sink := (st.material.commit st.sink kind nodes).2
            report :=
              if ((st.material.commit st.sink kind nodes).1.slot kind).isValid then
                st.report.commit e.1 kind
              else st.report.fail (.createFailed st.material.id kind)
            fed := kind :: st.fed } := by
  cases hconvert : c.convert net e.2.node with
  | error cause => exact Or.inl ⟨cause, rfl, terminal_of_error hconvert⟩
  | ok nodes =>
    cases hkind : terminalKind? e.1 with
    | none => exact Or.inr (Or.inl ⟨nodes, rfl, rfl, terminal_of_idle hconvert hkind⟩)
    | some kind =>
      exact Or.inr (Or.inr ⟨nodes, kind, rfl, rfl, terminal_of_kind hconvert hkind⟩)

theorem id_terminal : (st.terminal c net e).material.id = st.material.id := by
  rcases terminal_cases c net st e with ⟨_, -, heq⟩ | ⟨_, -, -, heq⟩ | ⟨_, _, -, -, heq⟩
  · rw [heq]
  · rw [heq]
  · rw [heq]
    exact Material.id_commit

theorem id_foldl_terminal (entries : List (String × Connection)) :
    (entries.foldl (terminal c net) st).material.id = st.material.id :=
  List.foldlRecOn (motive := fun st' : SyncState => st'.material.id = st.material.id) _ _ rfl
    fun _ hid _ _ => id_terminal.trans hid

/-- A terminal notes the kind of network that it feeds. -/
theorem mem_fed_terminal :
    kind ∈ (st.terminal c net e).fed ↔ kind ∈ st.fed ∨ c.feed? net kind e ≠ none := by
  rcases terminal_cases c net st e with ⟨_, hconvert, heq⟩ | ⟨_, -, hkind, heq⟩ |
    ⟨nodes, fed, hconvert, hkind, heq⟩
  · rw [heq, ShaderCatalog.feed?_of_error hconvert]
    simp
  · rw [heq, ShaderCatalog.feed?_of_idle hkind]
    simp
  · rw [heq, ShaderCatalog.feed?_of_kind hconvert hkind, List.mem_cons]
    by_cases hsame : kind = fed
    · simp [hsame]
    · simp [hsame]

theorem mem_fed_foldl_terminal (entries : List (String × Connection)) :
    kind ∈ (entries.foldl (terminal c net) st).fed ↔
      kind ∈ st.fed ∨ entries.filterMap (c.feed? net kind) ≠ [] := by
  induction entries using List.reverseRecOn with
  | nil => simp
  | append_singleton front e ih =>
    rw [List.foldl_append, List.foldl_cons, List.foldl_nil, mem_fed_terminal, ih]
    cases hfeed : c.feed? net kind e with
    | none => simp [List.filterMap_append, hfeed]
    | some nodes => simp [List.filterMap_append, hfeed]

theorem slot_terminal_of_valid (h : (st.material.slot kind).isValid = true) :
    (st.terminal c net e).material.slot kind = st.material.slot kind := by
  rcases terminal_cases c net st e with ⟨_, -, heq⟩ | ⟨_, -, -, heq⟩ | ⟨_, _, -, -, heq⟩
  · rw [heq]
  · rw [heq]
  · rw [heq]
    exact Material.slot_commit_of_valid h

theorem slot_foldl_terminal_of_valid (entries : List (String × Connection))
    (h : (st.material.slot kind).isValid = true) :
    (entries.foldl (terminal c net) st).material.slot kind = st.material.slot kind := by
  induction entries using List.reverseRecOn with
  | nil => rfl
  | append_singleton front e ih =>
    rw [List.foldl_append, List.foldl_cons, List.foldl_nil, ← ih]
    exact slot_terminal_of_valid (ih ▸ h)

theorem releaseUnfed_of_mem (h : kind ∈ st.fed) : st.releaseUnfed kind = st := by
  rw [releaseUnfed, if_pos h]

theorem releaseUnfed_of_not_mem (h : kind ∉ st.fed) :
    st.releaseUnfed kind =
      { st with
        material := (st.material.release st.sink kind).1
        sink := (st.material.release st.sink kind).2
        report :=
          if (st.material.slot kind).isValid then st.report.delete kind else st.report } := by
  rw [releaseUnfed, if_neg h]

theorem id_releaseUnfed : (st.releaseUnfed kind).material.id = st.material.id := by
  unfold releaseUnfed
  split
  · rfl
  · exact Material.id_release

theorem id_releaseAll : st.releaseAll.material.id = st.material.id :=
  id_releaseUnfed.trans id_releaseUnfed

theorem fed_releaseUnfed : (st.releaseUnfed kind).fed = st.fed := by
  unfold releaseUnfed
  split <;> rfl

theorem slot_releaseUnfed_of_mem (h : kind ∈ st.fed) (kind' : NetworkKind) :
    (st.releaseUnfed kind').material.slot kind = st.material.slot kind := by
  unfold releaseUnfed
  split
  · rfl
  · rename_i hunfed
    have hne : kind ≠ kind' := by
      rintro rfl
      exact hunfed h
    exact Material.slot_release_of_ne hne

/-- What is fed keeps its id. -/
theorem slot_releaseAll_of_mem (h : kind ∈ st.fed) :
    st.releaseAll.material.slot kind = st.material.slot kind := by
  rw [releaseAll, slot_releaseUnfed_of_mem (fed_releaseUnfed.symm ▸ h), slot_releaseUnfed_of_mem h]

end SyncState

/-! ## A sync makes moves -/

namespace Holdings

variable {h : Holdings ι} {i : ι} {m : Material} {sink : NetworkSink} {kind kind' : NetworkKind}
  {nodes : List ShadingNode} {c : ShaderCatalog} {net : MaterialNetwork} {st : SyncState}
  {e : String × Connection} [DecidableEq ι]

/-- The holdings with one owner and the sink as given. -/
def put (h : Holdings ι) (i : ι) (m : Material) (sink : NetworkSink) : Holdings ι :=
  ⟨fun q => if q.1 = i then m.slot q.2 else h.slot q, sink⟩

/-- The holdings with one owner and the sink as they are in a sync. -/
abbrev during (h : Holdings ι) (i : ι) (st : SyncState) : Holdings ι := h.put i st.material st.sink

theorem slot_put_self : (h.put i m sink).slot (i, kind) = m.slot kind := if_pos rfl

theorem slot_put_of_ne {q : ι × NetworkKind} (hne : q.1 ≠ i) :
    (h.put i m sink).slot q = h.slot q := if_neg hne

theorem put_eq_self (hslot : ∀ kind, m.slot kind = h.slot (i, kind)) : h.put i m h.sink = h := by
  have hall : (fun q : ι × NetworkKind => if q.1 = i then m.slot q.2 else h.slot q) = h.slot := by
    funext q
    obtain ⟨j, kind⟩ := q
    by_cases hj : j = i
    · subst hj
      rw [if_pos rfl, hslot]
    · rw [if_neg hj]
  rw [put, hall]

theorem put_setSlot (sink : NetworkSink) {id : NetworkId} {sink' : NetworkSink} :
    h.put i (m.setSlot kind id) sink' = (h.put i m sink).assign (i, kind) id sink' := by
  have hall : (fun q : ι × NetworkKind =>
      if q.1 = i then (m.setSlot kind id).slot q.2 else h.slot q) =
        Function.update (h.put i m sink).slot (i, kind) id := by
    funext q
    obtain ⟨j, kind'⟩ := q
    by_cases hq : (j, kind') = (i, kind)
    · obtain ⟨rfl, rfl⟩ := Prod.mk.inj hq
      rw [Function.update_self, if_pos rfl, Material.slot_setSlot, if_pos rfl]
    · rw [Function.update_of_ne hq]
      by_cases hj : j = i
      · subst hj
        have hkind : kind' ≠ kind := fun heq => hq (by rw [heq])
        rw [if_pos rfl, Material.slot_setSlot, if_neg hkind, slot_put_self]
      · rw [if_neg hj, slot_put_of_ne hj]
  rw [put, hall, assign]

theorem move_commit (h : Holdings ι) (i : ι) (m : Material) (sink : NetworkSink)
    (kind : NetworkKind) (nodes : List ShadingNode) :
    Move (i, kind) (h.put i m sink)
      (h.put i (m.commit sink kind nodes).1 (m.commit sink kind nodes).2) := by
  cases hvalid : (m.slot kind).isValid with
  | true =>
    have hmove := Move.modify (p := (i, kind)) (h := h.put i m sink) nodes
      (by rw [slot_put_self, hvalid])
    rw [slot_put_self] at hmove
    rw [Material.commit_of_valid hvalid]
    exact hmove
  | false =>
    have hfree := NetworkId.isValid_eq_false_iff.1 hvalid
    have hplace : (h.put i m sink).slot (i, kind) = .invalid := slot_put_self.trans hfree
    rw [Material.commit_of_free hfree, put_setSlot sink]
    cases hrejects : sink.rejecting with
    | false =>
      rw [NetworkSink.fst_create_of_accepting hrejects]
      exact Move.create nodes hplace hrejects
    | true =>
      -- The id handed out is the invalid one that was there.
      have hid : (sink.create kind nodes).1 = (h.put i m sink).slot (i, kind) := by
        rw [NetworkSink.create_of_rejecting hrejects, hplace]
      rw [hid, assign_slot]
      exact Move.reject nodes hplace hrejects

theorem move_release (h : Holdings ι) (i : ι) (m : Material) (sink : NetworkSink)
    (kind : NetworkKind) :
    Move (i, kind) (h.put i m sink)
      (h.put i (m.release sink kind).1 (m.release sink kind).2) := by
  cases hvalid : (m.slot kind).isValid with
  | true =>
    have hmove := Move.delete (p := (i, kind)) (h := h.put i m sink)
      (by rw [slot_put_self, hvalid])
    rw [slot_put_self] at hmove
    rw [Material.release_of_valid hvalid, put_setSlot sink]
    exact hmove
  | false =>
    rw [Material.release_of_free (NetworkId.isValid_eq_false_iff.1 hvalid)]
    exact Move.pass

theorem moves_terminal (h : Holdings ι) (i : ι) (c : ShaderCatalog) (net : MaterialNetwork)
    (st : SyncState) (e : String × Connection) :
    Moves (· = i) (h.during i st) (h.during i (st.terminal c net e)) := by
  rcases SyncState.terminal_cases c net st e with ⟨_, -, heq⟩ | ⟨_, -, -, heq⟩ |
    ⟨nodes, kind, -, -, heq⟩
  · rw [heq]
    exact .refl
  · rw [heq]
    exact .refl
  · rw [heq]
    exact (h.move_commit i st.material st.sink kind nodes).moves rfl

theorem moves_foldl_terminal (h : Holdings ι) (i : ι) (c : ShaderCatalog) (net : MaterialNetwork)
    (entries : List (String × Connection)) (st : SyncState) :
    Moves (· = i) (h.during i st)
      (h.during i (entries.foldl (SyncState.terminal c net) st)) := by
  induction entries generalizing st with
  | nil => exact .refl
  | cons e rest ih => exact (h.moves_terminal i c net st e).trans (ih _)

theorem move_releaseUnfed (h : Holdings ι) (i : ι) (st : SyncState) (kind : NetworkKind) :
    Move (i, kind) (h.during i st) (h.during i (st.releaseUnfed kind)) := by
  unfold SyncState.releaseUnfed
  split
  · exact Move.pass
  · exact h.move_release i st.material st.sink kind

theorem moves_releaseAll (h : Holdings ι) (i : ι) (st : SyncState) :
    Moves (· = i) (h.during i st) (h.during i st.releaseAll) :=
  Moves.trans ((h.move_releaseUnfed i st .material).moves rfl)
    ((h.move_releaseUnfed i _ .displacement).moves rfl)

/-! ## What the sink has for the material -/

theorem held_put_self : (h.put i m sink).held (i, kind) = sink.network? (m.slot kind) := by
  rw [held, slot_put_self]
  rfl

theorem held_commit (howned : (h.put i m sink).Owned)
    (hfresh : (m.commit sink kind nodes).2.Fresh) :
    (h.put i (m.commit sink kind nodes).1 (m.commit sink kind nodes).2).held (i, kind) =
      kind.recommit sink.rejecting ((h.put i m sink).held (i, kind)) nodes := by
  have hbefore : (h.put i m sink).sink.Fresh :=
    hfresh.mono (h.move_commit i m sink kind nodes).issued_prefix_issued
  cases hvalid : (m.slot kind).isValid with
  | true =>
    obtain ⟨n, hn, -⟩ := howned.live_of_valid (i, kind) (by rw [slot_put_self, hvalid])
    have hnetwork : sink.network? (m.slot kind) = some n := held_put_self.symm.trans hn
    rw [hn, Material.commit_of_valid hvalid, held_put_self, NetworkSink.network?_modify, hnetwork,
      Option.map_some, if_pos rfl, NetworkKind.recommit]
  | false =>
    have hfree := NetworkId.isValid_eq_false_iff.1 hvalid
    have hnone := (howned.held_eq_none_iff hbefore).2 (slot_put_self.trans hfree)
    have hnetwork : sink.network? .invalid = none := by
      rw [← hfree]
      exact held_put_self.symm.trans hnone
    rw [Material.commit_of_free hfree] at hfresh ⊢
    rw [hnone, held_put_self, Material.slot_setSlot, if_pos rfl, NetworkKind.recommit]
    cases hrejects : sink.rejecting with
    | false =>
      rw [NetworkSink.network?_create hrejects, NetworkSink.fst_create_of_accepting hrejects,
        if_pos rfl]
      rfl
    | true =>
      rw [NetworkSink.network?_create_of_rejecting hrejects,
        NetworkSink.create_of_rejecting hrejects, hnetwork]
      rfl

theorem held_release (howned : (h.put i m sink).Owned) (hfresh : (m.release sink kind).2.Fresh) :
    (h.put i (m.release sink kind).1 (m.release sink kind).2).held (i, kind) = none := by
  have hafter := howned.move (h.move_release i m sink kind) hfresh
  have hslot : (m.release sink kind).1.slot kind = .invalid := by
    cases hvalid : (m.slot kind).isValid with
    | true => rw [Material.release_of_valid hvalid, Material.slot_setSlot, if_pos rfl]
    | false =>
      have hfree := NetworkId.isValid_eq_false_iff.1 hvalid
      rw [Material.release_of_free hfree, hfree]
  exact (hafter.held_eq_none_iff hfresh).2 (slot_put_self.trans hslot)

/-- A terminal commits to the network that it feeds, and leaves the other one alone. -/
theorem held_terminal (howned : (h.during i st).Owned)
    (hfresh : (st.terminal c net e).sink.Fresh) :
    (h.during i (st.terminal c net e)).held (i, kind) =
      (c.feed? net kind e).toList.foldl (kind.recommit st.sink.rejecting)
        ((h.during i st).held (i, kind)) := by
  rcases SyncState.terminal_cases c net st e with ⟨_, hconvert, heq⟩ | ⟨_, -, hkind, heq⟩ |
    ⟨nodes, fed, hconvert, hkind, heq⟩
  · rw [heq, ShaderCatalog.feed?_of_error hconvert]
    rfl
  · rw [heq, ShaderCatalog.feed?_of_idle hkind]
    rfl
  · rw [heq] at hfresh ⊢
    rw [ShaderCatalog.feed?_of_kind hconvert hkind]
    by_cases hsame : kind = fed
    · subst hsame
      rw [if_pos rfl]
      exact held_commit howned hfresh
    · have hne : (i, kind) ≠ (i, fed) := fun heq => hsame (Prod.mk.inj heq).2
      rw [if_neg hsame]
      exact ((h.move_commit i st.material st.sink fed nodes).held_of_ne howned hfresh hne).2

/-- After the terminals, the sink has for the material what those that feed a network made of it. -/
theorem held_foldl_terminal (entries : List (String × Connection)) (howned : (h.during i st).Owned)
    (hfresh : (entries.foldl (SyncState.terminal c net) st).sink.Fresh) :
    (h.during i (entries.foldl (SyncState.terminal c net) st)).held (i, kind) =
      (entries.filterMap (c.feed? net kind)).foldl (kind.recommit st.sink.rejecting)
        ((h.during i st).held (i, kind)) := by
  induction entries using List.reverseRecOn with
  | nil => rfl
  | append_singleton front e ih =>
    have hmoves := h.moves_foldl_terminal i c net front st
    rw [List.foldl_append] at hfresh ⊢
    have hmid := (h.moves_terminal i c net (front.foldl (SyncState.terminal c net) st) e).fresh
      hfresh
    have hrejecting : (front.foldl (SyncState.terminal c net) st).sink.rejecting =
        st.sink.rejecting := hmoves.rejecting_eq
    rw [List.foldl_cons, List.foldl_nil, held_terminal (howned.moves hmoves hmid) hfresh, ih hmid,
      hrejecting, List.filterMap_append, List.foldl_append]
    cases hfeed : c.feed? net kind e with
    | none => simp [hfeed]
    | some nodes => simp [hfeed]

theorem held_releaseUnfed (howned : (h.during i st).Owned)
    (hfresh : (st.releaseUnfed kind').sink.Fresh) :
    (h.during i (st.releaseUnfed kind')).held (i, kind) =
      if kind = kind' ∧ kind' ∉ st.fed then none else (h.during i st).held (i, kind) := by
  have hmove := h.move_releaseUnfed i st kind'
  by_cases hsame : kind = kind'
  · subst hsame
    by_cases hfed : kind ∈ st.fed
    · rw [SyncState.releaseUnfed_of_mem hfed, if_neg fun h => h.2 hfed]
    · rw [SyncState.releaseUnfed_of_not_mem hfed] at hfresh ⊢
      have hcond : kind = kind ∧ kind ∉ st.fed := ⟨rfl, hfed⟩
      rw [if_pos hcond]
      exact held_release howned hfresh
  · have hne : (i, kind) ≠ (i, kind') := fun heq => hsame (Prod.mk.inj heq).2
    rw [if_neg (fun h => hsame h.1)]
    exact (hmove.held_of_ne howned hfresh hne).2

/-- In the end the sink has what is fed, and nothing else. -/
theorem held_releaseAll (howned : (h.during i st).Owned) (hfresh : st.releaseAll.sink.Fresh) :
    (h.during i st.releaseAll).held (i, kind) =
      if kind ∈ st.fed then (h.during i st).held (i, kind) else none := by
  have hlast := h.move_releaseUnfed i (st.releaseUnfed .material) .displacement
  have hmid := hfresh.mono hlast.issued_prefix_issued
  have howned' := howned.move (h.move_releaseUnfed i st .material) hmid
  rw [SyncState.releaseAll, held_releaseUnfed howned' hfresh, held_releaseUnfed howned hmid,
    SyncState.fed_releaseUnfed]
  cases kind with
  | material =>
    by_cases hfed : NetworkKind.material ∈ st.fed
    · simp [hfed]
    · simp [hfed]
  | displacement =>
    by_cases hfed : NetworkKind.displacement ∈ st.fed
    · simp [hfed]
    · simp [hfed]

end Holdings

end ShadingGraph
