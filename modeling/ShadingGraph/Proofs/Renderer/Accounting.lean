import ShadingGraph.Proofs.Renderer.Scene

/-!
# How the report of a sync and the calls of its sink account for each other

Every terminal of the filtered network has one outcome, which says what the report lists for it and
which call the sink has received for it. Behind the terminals come the deletions, one for each kind
of network that the material had and that nothing feeds any more.

## Main definitions

- `TerminalOutcome` — what becomes of a terminal, with its call, its commit and its error
- `TerminalOutcome.Arises` — when a terminal has an outcome
- `SyncTrace`, `SyncTrace.Arises` — the terminals with their outcomes, in order
- `SyncState.Tells`, `SyncState.Releases` — what terminals and deletions do
- `SyncState.unfed` — the kinds of network to be deleted
- `Accounted` — the account of a sync

## Main results

- `SyncState.exists_trace_foldl_terminal` — the terminals of a network leave a trace
- `SyncTrace.eq_of_calls` — a trace can be told from its terminals and calls
- `Material.sync_accounted` — every sync has exactly one account
-/

namespace ShadingGraph

/-! ## Outcomes -/

/-- What becomes of a terminal in a sync. -/
inductive TerminalOutcome where
  /-- Its node could not be converted. -/
  | unconverted (cause : ConversionError)
  /-- It converts, but feeds no network. -/
  | idle
  | modified (kind : NetworkKind) (id : NetworkId)
  /-- A network was to be created; the id is what the sink handed out. -/
  | created (kind : NetworkKind) (id : NetworkId)
deriving DecidableEq

/-- Terminals with their outcomes, in order. -/
abbrev SyncTrace := List ((String × Connection) × TerminalOutcome)

namespace TerminalOutcome

def call? : TerminalOutcome → Option SinkCall
  | .unconverted _ | .idle => none
  | .modified kind id => some (.modify kind id)
  | .created kind id => some (.create kind id)

/-- The network that the terminal is committed to; without a valid id, none was created. -/
def commit? : TerminalOutcome → Option NetworkKind
  | .unconverted _ | .idle => none
  | .modified kind _ => some kind
  | .created kind id => if id.isValid then some kind else none

def error? (material terminal : String) : TerminalOutcome → Option SyncError
  | .unconverted cause => some (.conversion material terminal cause)
  | .idle | .modified _ _ => none
  | .created kind id => if id.isValid then none else some (.createFailed material kind)

/-- The ids of a material behind a terminal. -/
def heldAfter (held : NetworkKind → NetworkId) : TerminalOutcome → NetworkKind → NetworkId
  | .created kind id => Function.update held kind id
  | .unconverted _ | .idle | .modified _ _ => held

/-- A terminal has an outcome, given the ids that the material holds in front of it. Whether its
node converts comes first, then whether its name is one of the three that feed a network. For these,
a valid id decides between the last two. -/
inductive Arises (c : ShaderCatalog) (net : MaterialNetwork) (held : NetworkKind → NetworkId)
    (e : String × Connection) : TerminalOutcome → Prop where
  | unconverted (cause : ConversionError) (hconvert : c.convert net e.2.node = .error cause) :
    Arises c net held e (.unconverted cause)
  | idle (nodes : List ShadingNode) (hconvert : c.convert net e.2.node = .ok nodes)
    (hname : e.1 ∉ ["surface", "volume", "displacement"]) : Arises c net held e .idle
  | modified (nodes : List ShadingNode) (kind : NetworkKind)
    (hconvert : c.convert net e.2.node = .ok nodes) (hname : e.1 ∈ kind.terminals)
    (hvalid : (held kind).isValid = true) : Arises c net held e (.modified kind (held kind))
  | created (nodes : List ShadingNode) (kind : NetworkKind) (id : NetworkId)
    (hconvert : c.convert net e.2.node = .ok nodes) (hname : e.1 ∈ kind.terminals)
    (hfree : held kind = .invalid) : Arises c net held e (.created kind id)

variable {c : ShaderCatalog} {net : MaterialNetwork} {held held' : NetworkKind → NetworkId}
  {e : String × Connection} {o o' : TerminalOutcome}

/-- A terminal has a call if it converts and feeds a network. -/
theorem Arises.isSome_call?_iff (h : o.Arises c net held e) :
    o.call?.isSome = true ↔
      (∃ nodes, c.convert net e.2.node = .ok nodes) ∧
        e.1 ∈ ["surface", "volume", "displacement"] := by
  cases h with
  | unconverted cause hconvert => simp [call?, hconvert]
  | idle nodes hconvert hname => exact iff_of_false nofun fun hcall => hname hcall.2
  | modified nodes kind hconvert hname =>
    exact iff_of_true rfl ⟨⟨nodes, hconvert⟩, NetworkKind.exists_mem_terminals_iff.1 ⟨kind, hname⟩⟩
  | created nodes kind id hconvert hname =>
    exact iff_of_true rfl ⟨⟨nodes, hconvert⟩, NetworkKind.exists_mem_terminals_iff.1 ⟨kind, hname⟩⟩

/-- Of one terminal, all outcomes have a call or none has. -/
theorem Arises.length_call? (h : o.Arises c net held e) (h' : o'.Arises c net held' e) :
    o.call?.toList.length = o'.call?.toList.length := by
  have hsame := h.isSome_call?_iff.trans h'.isSome_call?_iff.symm
  cases hcall : o.call? <;> cases hcall' : o'.call? <;> simp_all

theorem Arises.eq_of_call? (h : o.Arises c net held e) (h' : o'.Arises c net held' e)
    (hcall : o.call? = o'.call?) : o = o' := by
  cases h <;> cases h'
  case modified.modified => simpa [call?] using hcall
  all_goals simp_all [call?]

end TerminalOutcome

/-! ## Traces -/

namespace SyncTrace

variable {c : ShaderCatalog} {net : MaterialNetwork} {before before' : NetworkKind → NetworkId}
  {trace trace' : SyncTrace} {material : String}

def calls (trace : SyncTrace) : List SinkCall := trace.filterMap fun p => p.2.call?

def commits (trace : SyncTrace) : List (String × NetworkKind) :=
  trace.filterMap fun p => p.2.commit?.map fun kind => (p.1.1, kind)

def errors (material : String) (trace : SyncTrace) : List SyncError :=
  trace.filterMap fun p => p.2.error? material p.1.1

/-- The ids of a material behind the terminals of a trace. -/
def held (before : NetworkKind → NetworkId) (trace : SyncTrace) : NetworkKind → NetworkId :=
  trace.foldl (fun held p => p.2.heldAfter held) before

theorem calls_append : calls (trace ++ trace') = calls trace ++ calls trace' :=
  List.filterMap_append

theorem commits_append : commits (trace ++ trace') = commits trace ++ commits trace' :=
  List.filterMap_append

theorem errors_append :
    errors material (trace ++ trace') = errors material trace ++ errors material trace' :=
  List.filterMap_append

theorem held_append : held before (trace ++ trace') = held (held before trace) trace' :=
  List.foldl_append

section

variable {e : String × Connection} {o : TerminalOutcome}

theorem calls_singleton : calls [(e, o)] = o.call?.toList := by
  cases hcall : o.call? <;> simp [calls, hcall]

theorem commits_singleton :
    commits [(e, o)] = (o.commit?.map fun kind => (e.1, kind)).toList := by
  cases hcommit : o.commit? <;> simp [commits, hcommit]

theorem errors_singleton : errors material [(e, o)] = (o.error? material e.1).toList := by
  cases herror : o.error? material e.1 <;> simp [errors, herror]

theorem held_singleton : held before [(e, o)] = o.heldAfter before := rfl

end

/-- Every terminal has its outcome, given what the terminals in front of it have left. -/
inductive Arises (c : ShaderCatalog) (net : MaterialNetwork) (before : NetworkKind → NetworkId) :
    SyncTrace → Prop where
  | nil : Arises c net before []
  | concat {front : SyncTrace} {e : String × Connection} {o : TerminalOutcome}
    (hfront : Arises c net before front) (ho : o.Arises c net (held before front) e) :
    Arises c net before (front ++ [(e, o)])

/-- Two traces of the same terminals with the same calls are the same. -/
theorem eq_of_calls (h : Arises c net before trace) (h' : Arises c net before' trace')
    (hterminals : trace.map Prod.fst = trace'.map Prod.fst)
    (hcalls : calls trace = calls trace') : trace = trace' := by
  induction h generalizing trace' with
  | nil => exact (List.map_eq_nil_iff.1 hterminals.symm).symm
  | @concat front e o hfront ho ih =>
    cases h' with
    | nil => simp at hterminals
    | @concat front' e' o' hfront' ho' =>
      rw [List.map_append, List.map_append] at hterminals
      obtain ⟨hfronts, hlast⟩ := List.append_inj' hterminals rfl
      obtain rfl : e = e' := List.singleton_inj.1 hlast
      rw [calls_append, calls_append, calls_singleton, calls_singleton] at hcalls
      -- Both outcomes have a call or none has, so the calls in front match as well.
      obtain ⟨hfirst, hcall⟩ := List.append_inj' hcalls (ho.length_call? ho')
      have hsame : o.call? = o'.call? := by simpa using congrArg List.head? hcall
      rw [ih hfront' hfronts hfirst, ho.eq_of_call? ho' hsame]

end SyncTrace

/-! ## The terminals of a sync -/

namespace SyncState

variable {c : ShaderCatalog} {net : MaterialNetwork} {st st' st'' : SyncState}
  {trace trace' : SyncTrace} {e : String × Connection} {kind : NetworkKind}

/-- A trace tells what has been done between two states of a sync. -/
structure Tells (trace : SyncTrace) (st st' : SyncState) : Prop where
  id : st'.material.id = st.material.id
  slot : st'.material.slot = trace.held st.material.slot
  committed : st'.report.committed = st.report.committed ++ trace.commits
  deleted : st'.report.deleted = st.report.deleted
  errors : st'.report.errors = st.report.errors ++ trace.errors st.material.id
  calls : st'.sink.calls = st.sink.calls ++ trace.calls

theorem Tells.nil : Tells [] st st := by
  constructor <;> simp [SyncTrace.held, SyncTrace.commits, SyncTrace.errors, SyncTrace.calls]

theorem Tells.append (h : Tells trace st st') (h' : Tells trace' st' st'') :
    Tells (trace ++ trace') st st'' where
  id := h'.id.trans h.id
  slot := by rw [h'.slot, h.slot, SyncTrace.held_append]
  committed := by rw [h'.committed, h.committed, SyncTrace.commits_append, List.append_assoc]
  deleted := h'.deleted.trans h.deleted
  errors := by rw [h'.errors, h.errors, h.id, SyncTrace.errors_append, List.append_assoc]
  calls := by rw [h'.calls, h.calls, SyncTrace.calls_append, List.append_assoc]

theorem Tells.single {o : TerminalOutcome} (hid : st'.material.id = st.material.id)
    (hslot : st'.material.slot = o.heldAfter st.material.slot)
    (hcommitted : st'.report.committed =
      st.report.committed ++ (o.commit?.map fun kind => (e.1, kind)).toList)
    (hdeleted : st'.report.deleted = st.report.deleted)
    (herrors : st'.report.errors = st.report.errors ++ (o.error? st.material.id e.1).toList)
    (hcalls : st'.sink.calls = st.sink.calls ++ o.call?.toList) : Tells [(e, o)] st st' where
  id := hid
  slot := hslot.trans SyncTrace.held_singleton.symm
  committed := by rw [hcommitted, SyncTrace.commits_singleton]
  deleted := hdeleted
  errors := by rw [herrors, SyncTrace.errors_singleton]
  calls := by rw [hcalls, SyncTrace.calls_singleton]

/-- A commit modifies the network that is there, or creates one. -/
theorem exists_outcome_of_kind {nodes : List ShadingNode}
    (hconvert : c.convert net e.2.node = .ok nodes) (hkind : terminalKind? e.1 = some kind) :
    ∃ o : TerminalOutcome, o.Arises c net st.material.slot e ∧
      Tells [(e, o)] st (st.terminal c net e) := by
  have hid : (st.terminal c net e).material.id = st.material.id := id_terminal
  rw [terminal_of_kind hconvert hkind] at hid ⊢
  cases hvalid : (st.material.slot kind).isValid with
  | true =>
    refine ⟨_, .modified nodes kind hconvert (terminalKind?_eq_some_iff.1 hkind) hvalid, ?_⟩
    rw [Material.commit_of_valid hvalid, if_pos hvalid] at hid ⊢
    exact .single hid rfl rfl rfl (List.append_nil _).symm rfl
  | false =>
    have hfree := NetworkId.isValid_eq_false_iff.1 hvalid
    refine ⟨_, .created nodes kind (st.sink.create kind nodes).1 hconvert
      (terminalKind?_eq_some_iff.1 hkind) hfree, ?_⟩
    rw [Material.commit_of_free hfree, Material.slot_setSlot, if_pos rfl] at hid ⊢
    -- Whether the id that was handed out is valid decides between a commit and an error.
    have hslot : (st.material.setSlot kind (st.sink.create kind nodes).1).slot =
        Function.update st.material.slot kind (st.sink.create kind nodes).1 := by
      funext kind'
      rw [Material.slot_setSlot, Function.update_apply]
    cases hnew : (st.sink.create kind nodes).1.isValid with
    | true =>
      refine .single hid hslot ?_ rfl ?_ NetworkSink.calls_create
      · simp [TerminalOutcome.commit?, hnew, SyncReport.commit]
      · simp [TerminalOutcome.error?, hnew, SyncReport.commit]
    | false =>
      refine .single hid hslot ?_ rfl ?_ NetworkSink.calls_create
      · simp [TerminalOutcome.commit?, hnew, SyncReport.fail]
      · simp [TerminalOutcome.error?, hnew, SyncReport.fail]

/-- One terminal has an outcome. -/
theorem exists_outcome (c : ShaderCatalog) (net : MaterialNetwork) (st : SyncState)
    (e : String × Connection) :
    ∃ o : TerminalOutcome, o.Arises c net st.material.slot e ∧
      Tells [(e, o)] st (st.terminal c net e) := by
  cases hconvert : c.convert net e.2.node with
  | error cause =>
    refine ⟨_, .unconverted cause hconvert, ?_⟩
    rw [terminal_of_error hconvert]
    exact .single rfl rfl (List.append_nil _).symm rfl rfl (List.append_nil _).symm
  | ok nodes =>
    cases hkind : terminalKind? e.1 with
    | none =>
      refine ⟨_, .idle nodes hconvert (terminalKind?_eq_none_iff.1 hkind), ?_⟩
      rw [terminal_of_idle hconvert hkind]
      exact .single rfl rfl (List.append_nil _).symm rfl (List.append_nil _).symm
        (List.append_nil _).symm
    | some kind => exact exists_outcome_of_kind hconvert hkind

theorem exists_trace_foldl_terminal (c : ShaderCatalog) (net : MaterialNetwork) (st : SyncState)
    (entries : List (String × Connection)) :
    ∃ trace : SyncTrace, trace.map Prod.fst = entries ∧ trace.Arises c net st.material.slot ∧
      Tells trace st (entries.foldl (terminal c net) st) := by
  induction entries using List.reverseRecOn with
  | nil => exact ⟨[], rfl, .nil, .nil⟩
  | append_singleton front e ih =>
    obtain ⟨trace, hentries, harises, htells⟩ := ih
    obtain ⟨o, ho, hlast⟩ := exists_outcome c net (front.foldl (terminal c net) st) e
    rw [htells.slot] at ho
    refine ⟨trace ++ [(e, o)], by rw [List.map_append, hentries]; rfl, harises.concat ho, ?_⟩
    rw [List.foldl_append]
    exact htells.append hlast

/-- What nothing feeds keeps the id that it had. -/
theorem slot_foldl_terminal_of_unfed (entries : List (String × Connection))
    (h : kind ∉ (entries.foldl (terminal c net) st).fed) :
    (entries.foldl (terminal c net) st).material.slot kind = st.material.slot kind := by
  induction entries using List.reverseRecOn with
  | nil => rfl
  | append_singleton front e ih =>
    rw [List.foldl_append, List.foldl_cons, List.foldl_nil] at h ⊢
    rcases terminal_cases c net (front.foldl (terminal c net) st) e with ⟨_, -, heq⟩ |
      ⟨_, -, -, heq⟩ | ⟨nodes, fed, -, -, heq⟩
    · rw [heq] at h ⊢
      exact ih h
    · rw [heq] at h ⊢
      exact ih h
    · rw [heq] at h ⊢
      rw [List.mem_cons, not_or] at h
      exact (Material.slot_commit_of_ne h.1).trans (ih h.2)

/-! ## The deletions of a sync -/

/-- The kinds, out of some, of which the material has a network that nothing feeds. -/
def unfed (st : SyncState) (kinds : List NetworkKind) : List NetworkKind :=
  kinds.filter fun kind => (st.material.slot kind).isValid && decide (kind ∉ st.fed)

/-- The networks of some kinds are deleted between two states of a sync. -/
structure Releases (kinds : List NetworkKind) (st st' : SyncState) : Prop where
  slot : ∀ kind, st'.material.slot kind =
    if kind ∈ kinds then .invalid else st.material.slot kind
  report : st'.report = { st.report with deleted := st.report.deleted ++ kinds }
  calls : st'.sink.calls =
    st.sink.calls ++ kinds.map fun kind => .delete kind (st.material.slot kind)
  network : st'.material.network = st.material.network

theorem releases_releaseUnfed (st : SyncState) (kind : NetworkKind) :
    Releases (st.unfed [kind]) st (st.releaseUnfed kind) := by
  by_cases hfed : kind ∈ st.fed
  · have hnone : st.unfed [kind] = [] := by simp [unfed, hfed]
    rw [hnone, releaseUnfed_of_mem hfed]
    constructor <;> simp
  · rw [releaseUnfed_of_not_mem hfed]
    cases hvalid : (st.material.slot kind).isValid with
    | true =>
      have hone : st.unfed [kind] = [kind] := by simp [unfed, hfed, hvalid]
      rw [hone, Material.release_of_valid hvalid]
      refine ⟨fun kind' => ?_, rfl, rfl, ?_⟩
      · simp only [Material.slot_setSlot, List.mem_singleton]
      · cases kind <;> rfl
    | false =>
      have hnone : st.unfed [kind] = [] := by simp [unfed, hvalid]
      rw [hnone, Material.release_of_free (NetworkId.isValid_eq_false_iff.1 hvalid)]
      constructor <;> simp

theorem Releases.append {kinds kinds' : List NetworkKind} (h : Releases kinds st st')
    (h' : Releases kinds' st' st'') (hapart : ∀ kind ∈ kinds', kind ∉ kinds) :
    Releases (kinds ++ kinds') st st'' where
  slot kind := by
    rw [h'.slot, h.slot]
    by_cases hkind : kind ∈ kinds <;> by_cases hkind' : kind ∈ kinds' <;> simp [hkind, hkind']
  report := by rw [h'.report, h.report, List.append_assoc]
  calls := by
    have hids : (kinds'.map fun kind => SinkCall.delete kind (st'.material.slot kind)) =
        kinds'.map fun kind => SinkCall.delete kind (st.material.slot kind) :=
      List.map_congr_left fun kind hkind => by rw [h.slot, if_neg (hapart kind hkind)]
    rw [h'.calls, h.calls, hids, List.map_append, List.append_assoc]
  network := h'.network.trans h.network

/-- In the end, what nothing feeds is deleted. -/
theorem releases_releaseAll (st : SyncState) :
    Releases (st.unfed [.material, .displacement]) st st.releaseAll := by
  have hfirst := st.releases_releaseUnfed .material
  have hlast := (st.releaseUnfed .material).releases_releaseUnfed .displacement
  have hapart : NetworkKind.displacement ∉ st.unfed [.material] := fun hmem => by
    cases List.mem_singleton.1 (List.mem_filter.1 hmem).1
  -- The first deletion does not change what the second one is decided by.
  have hsame : (st.releaseUnfed .material).unfed [.displacement] = st.unfed [.displacement] := by
    refine List.filter_congr fun kind hkind => ?_
    obtain rfl := List.mem_singleton.1 hkind
    rw [hfirst.slot, if_neg hapart, fed_releaseUnfed]
  have hsplit : st.unfed [.material, .displacement] =
      st.unfed [.material] ++ st.unfed [.displacement] :=
    List.filter_append [NetworkKind.material] [.displacement]
  rw [hsame] at hlast
  rw [hsplit]
  refine hfirst.append hlast fun kind hkind => ?_
  obtain rfl := List.mem_singleton.1 (List.mem_filter.1 hkind).1
  exact hapart

end SyncState

/-! ## The account of a sync -/

/-- The account of a sync that starts from a material and a sink, given the filtered network with
the problems of the filters. -/
structure Accounted (c : ShaderCatalog) (filtered : MaterialNetwork × List String)
    (m : Material) (sink : NetworkSink) (trace : SyncTrace) (after : SyncState) : Prop where
  /-- Each terminal has one outcome. -/
  terminals : trace.map Prod.fst = filtered.1.terminals.entries
  arises : trace.Arises c filtered.1 m.slot
  committed : after.report.committed = trace.commits
  /-- The problems of the filters come first, as one error. -/
  errors : after.report.errors =
    (if filtered.2 = [] then [] else [.filter m.id filtered.2]) ++ trace.errors m.id
  /-- What is deleted is there, and no terminal that converts feeds it. -/
  deleted : after.report.deleted =
    [NetworkKind.material, .displacement].filter fun kind =>
      (m.slot kind).isValid && (c.feeds filtered.1 kind).isEmpty
  /-- The sink has received the calls of the terminals and then the deletions. -/
  calls : after.sink.calls =
    sink.calls ++ trace.calls ++
      after.report.deleted.map fun kind => .delete kind (m.slot kind)
  slot : ∀ kind, after.material.slot kind =
    if kind ∈ after.report.deleted then .invalid else trace.held m.slot kind
  network : after.material.network = filtered.1

theorem Accounted.unique {c : ShaderCatalog} {filtered : MaterialNetwork × List String}
    {m : Material} {sink : NetworkSink} {trace trace' : SyncTrace} {after : SyncState}
    (h : Accounted c filtered m sink trace after) (h' : Accounted c filtered m sink trace' after) :
    trace = trace' := by
  refine SyncTrace.eq_of_calls h.arises h'.arises (h.terminals.trans h'.terminals.symm) ?_
  have hcalls := h.calls.symm.trans h'.calls
  exact List.append_cancel_left (List.append_cancel_right hcalls)

namespace Material

variable (m : Material) (registry : ShaderRegistry) (settings : SyncSettings) (sink : NetworkSink)

theorem errors_filterReport (problems : List String) :
    (m.filterReport problems).errors = if problems = [] then [] else [.filter m.id problems] := by
  cases problems <;> rfl

section

variable (c : ShaderCatalog) (net : MaterialNetwork) (st : SyncState) (kinds : List NetworkKind)

/-- A terminal only ever adds to what is fed, so what is not fed in the end has been left alone. -/
theorem slot_of_mem_unfed {kind : NetworkKind}
    (h : kind ∈ (net.terminals.entries.foldl (SyncState.terminal c net) st).unfed kinds) :
    (net.terminals.entries.foldl (SyncState.terminal c net) st).material.slot kind =
      st.material.slot kind := by
  have hcond := (List.mem_filter.1 h).2
  rw [Bool.and_eq_true, decide_eq_true_iff] at hcond
  exact SyncState.slot_foldl_terminal_of_unfed _ hcond.2

/-- Behind the terminals, a network is to be deleted if it was there and no terminal feeds it. -/
theorem unfed_foldl_terminal (hfed : st.fed = []) :
    (net.terminals.entries.foldl (SyncState.terminal c net) st).unfed kinds =
      kinds.filter fun kind => (st.material.slot kind).isValid && (c.feeds net kind).isEmpty := by
  refine List.filter_congr fun kind _ => ?_
  have hmem := @SyncState.mem_fed_foldl_terminal c net st kind net.terminals.entries
  rw [hfed, or_iff_right List.not_mem_nil] at hmem
  by_cases hfeeds : c.feeds net kind = []
  · have hunfed := mt hmem.1 (not_not_intro hfeeds)
    rw [SyncState.slot_foldl_terminal_of_unfed _ hunfed]
    simp [hunfed, hfeeds]
  · simp [hmem.2 hfeeds, hfeeds]

end

/-- What the terminals have told and what is released behind them make up an account. -/
theorem accounted_of_tells {c : ShaderCatalog} {net : MaterialNetwork}
    {problems : List String} {trace : SyncTrace} {fed : SyncState}
    (hterminals : trace.map Prod.fst = net.terminals.entries) (harises : trace.Arises c net m.slot)
    (htells : SyncState.Tells trace ⟨m, sink, m.filterReport problems, []⟩ fed)
    (hunfed : fed.unfed [.material, .displacement] =
      [NetworkKind.material, .displacement].filter fun kind =>
        (m.slot kind).isValid && (c.feeds net kind).isEmpty)
    (hkept : ∀ kind ∈ fed.unfed [.material, .displacement],
      fed.material.slot kind = m.slot kind) :
    Accounted c (net, problems) m sink trace
      { fed.releaseAll with material := { fed.releaseAll.material with network := net } } := by
  obtain ⟨hslot, hreport, hcalls, -⟩ := fed.releases_releaseAll
  have hempty : (m.filterReport problems).committed = [] ∧
      (m.filterReport problems).deleted = [] := by
    cases problems <;> exact ⟨rfl, rfl⟩
  have hdeleted : fed.releaseAll.report.deleted = fed.unfed [.material, .displacement] := by
    rw [hreport, htells.deleted, hempty.2]
    rfl
  constructor
  · exact hterminals
  · exact harises
  · rw [hreport, htells.committed, hempty.1]
    rfl
  · rw [hreport, ← errors_filterReport]
    exact htells.errors
  · exact hdeleted.trans hunfed
  · -- What is deleted has the id that it had before the terminals.
    have hids : (fed.unfed [.material, .displacement]).map
          (fun kind => SinkCall.delete kind (fed.material.slot kind)) =
        fed.releaseAll.report.deleted.map fun kind => SinkCall.delete kind (m.slot kind) := by
      rw [hdeleted]
      exact List.map_congr_left fun kind hkind => by rw [hkept kind hkind]
    rw [hcalls, hids, htells.calls]
  · intro kind
    rw [hdeleted]
    refine Eq.trans ?_ ((hslot kind).trans (by rw [htells.slot]))
    cases kind <;> rfl
  · rfl

theorem exists_account (resource : MaterialNetwork) :
    ∃ trace, Accounted (settings.catalog registry)
      (settings.filters.execute (settings.catalog registry) m.id resource) m sink trace
      (m.sync (some resource) registry settings sink) := by
  let c := settings.catalog registry
  let filtered := settings.filters.execute c m.id resource
  let start : SyncState := ⟨m, sink, m.filterReport filtered.2, []⟩
  obtain ⟨trace, hterminals, harises, htells⟩ :=
    SyncState.exists_trace_foldl_terminal c filtered.1 start filtered.1.terminals.entries
  exact ⟨trace, m.accounted_of_tells sink hterminals harises htells
    (unfed_foldl_terminal c filtered.1 start _ rfl)
    fun kind hkind => slot_of_mem_unfed c filtered.1 start _ hkind⟩

/-- Without a network there is an error, and all that the material has is deleted. -/
theorem releases_sync_none :
    SyncState.Releases
      ([NetworkKind.material, .displacement].filter fun kind => (m.slot kind).isValid)
      ⟨m, sink, SyncReport.empty.fail (.unexpectedResource m.id), []⟩
      (m.sync none registry settings sink) := by
  have hreleases := SyncState.releases_releaseAll
    ⟨m, sink, SyncReport.empty.fail (.unexpectedResource m.id), []⟩
  have hunfed : SyncState.unfed ⟨m, sink, SyncReport.empty.fail (.unexpectedResource m.id), []⟩
      [.material, .displacement] =
        [NetworkKind.material, .displacement].filter fun kind => (m.slot kind).isValid := by
    simp [SyncState.unfed]
  rw [hunfed] at hreleases
  exact hreleases

/-- Each sync has exactly one account: one outcome for each terminal of the filtered network, which
the report and the calls list in the order of the terminals, and the deletions behind them. A
resource that is no network is reported as such and leaves nothing but deletions. -/
theorem sync_accounted :
    (∀ resource, ∃! trace, Accounted (settings.catalog registry)
        (settings.filters.execute (settings.catalog registry) m.id resource) m sink trace
        (m.sync (some resource) registry settings sink)) ∧
      let after := m.sync none registry settings sink
      after.report.errors = [.unexpectedResource m.id] ∧
        after.report.committed = [] ∧
        after.report.deleted =
          [NetworkKind.material, .displacement].filter (fun kind => (m.slot kind).isValid) ∧
        after.sink.calls =
          sink.calls ++ after.report.deleted.map (fun kind => .delete kind (m.slot kind)) ∧
        (∀ kind, after.material.slot kind = .invalid) ∧
        after.material.network = m.network := by
  refine ⟨fun resource => ?_, ?_⟩
  · obtain ⟨trace, htrace⟩ := m.exists_account registry settings sink resource
    exact ⟨trace, htrace, fun trace' htrace' => htrace'.unique htrace⟩
  · obtain ⟨hslot, hreport, hcalls, hnetwork⟩ := m.releases_sync_none registry settings sink
    intro after
    have hdeleted : after.report.deleted =
        [NetworkKind.material, .displacement].filter fun kind => (m.slot kind).isValid :=
      congrArg SyncReport.deleted hreport
    refine ⟨congrArg SyncReport.errors hreport, congrArg SyncReport.committed hreport, hdeleted,
      by rw [hdeleted]; exact hcalls, fun kind => ?_, hnetwork⟩
    -- An id that is not deleted was invalid before.
    rw [hslot kind, ite_eq_left_iff]
    intro hkept
    by_contra hvalid
    exact hkept (List.mem_filter.2 ⟨by cases kind <;> decide, NetworkId.isValid_iff.2 hvalid⟩)

end Material

/-! ## A terminal of each kind -/

/-- Settings with a filter that changes nothing and remarks on every material. -/
def remarkingSettings : SyncSettings :=
  { sampleSettings with filters := [⟨"remark", fun _ materialId net => (net, [materialId])⟩] }

/-- A material that has a network of either kind. -/
def sampleBefore : SyncState :=
  (Material.new "/M").sync (some (sampleResource [("surface", "R"), ("displacement", "B")]))
    sampleCatalog.registry sampleSettings (.opened false .created)

/-- A terminal that feeds no network, one that does, and one that leads nowhere. -/
def sampleTerminals : MaterialNetwork :=
  sampleResource [("light", "B"), ("volume", "R"), ("surface", "X")]

def sampleAfter : SyncState :=
  sampleBefore.material.sync (some sampleTerminals) sampleCatalog.registry remarkingSettings
    sampleBefore.sink

/-- What becomes of the three terminals. -/
def sampleTrace : SyncTrace :=
  [(("light", ⟨"B", "out"⟩), .idle),
    (("volume", ⟨"R", "out"⟩), .modified .material (sampleBefore.material.slot .material)),
    (("surface", ⟨"X", "out"⟩), .unconverted (.missingNode "X"))]

theorem arises_sampleTrace :
    sampleTrace.Arises (remarkingSettings.catalog sampleCatalog.registry) sampleTerminals
      sampleBefore.material.slot := by
  have hlight : SyncTrace.Arises (remarkingSettings.catalog sampleCatalog.registry) sampleTerminals
      sampleBefore.material.slot [(("light", ⟨"B", "out"⟩), .idle)] :=
    .concat .nil (.idle [surfaceAt "B" []] (by cbv) (by decide))
  have hvolume := hlight.concat (e := ("volume", ⟨"R", "out"⟩))
    (.modified [surfaceAt "B" [], surfaceAt "R" [("in", .reference .float "B:out")]] .material
      (by cbv) (by decide) (by cbv))
  exact hvolume.concat (.unconverted _ (by cbv))

/-- The filter and the surface are reported, the volume is committed, nothing is told of the light,
and the displacement is deleted. -/
theorem sync_accounted_sampleTerminals :
    Accounted (remarkingSettings.catalog sampleCatalog.registry) (sampleTerminals, ["/M"])
        sampleBefore.material sampleBefore.sink sampleTrace sampleAfter ∧
      sampleAfter.report.errors =
        [.filter "/M" ["/M"], .conversion "/M" "surface" (.missingNode "X")] ∧
      sampleAfter.report.committed = [("volume", .material)] ∧
      sampleAfter.report.deleted = [.displacement] ∧
      sampleAfter.sink.calls =
        [.create .material (.created 0), .create .displacement (.created 1),
          .modify .material (.created 0), .delete .displacement (.created 1)] := by
  obtain ⟨trace, haccounted, -⟩ := (sampleBefore.material.sync_accounted sampleCatalog.registry
    remarkingSettings sampleBefore.sink).1 sampleTerminals
  have hdeleted : sampleAfter.report.deleted = [.displacement] := by cbv
  have hcalls : sampleAfter.sink.calls =
      sampleBefore.sink.calls ++ sampleTrace.calls ++
        sampleAfter.report.deleted.map fun kind =>
          .delete kind (sampleBefore.material.slot kind) := by cbv
  have hsame : trace.calls = sampleTrace.calls :=
    List.append_cancel_left (List.append_cancel_right (haccounted.calls.symm.trans hcalls))
  obtain rfl : trace = sampleTrace :=
    SyncTrace.eq_of_calls haccounted.arises arises_sampleTrace haccounted.terminals hsame
  have herrors := haccounted.errors.trans (by cbv)
  have hid : sampleBefore.material.id = "/M" := by cbv
  rw [hid] at haccounted
  exact ⟨haccounted, herrors, haccounted.committed, hdeleted, hcalls.trans (by cbv)⟩

end ShadingGraph
