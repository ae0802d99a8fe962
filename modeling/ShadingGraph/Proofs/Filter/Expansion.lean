import Mathlib.Data.List.Induction
import ShadingGraph.Filter.Vstruct
import ShadingGraph.Proofs.OrderedMap
import ShadingGraph.Proofs.Registry.Properties
import ShadingGraph.Registry.RenderMan

/-!
# The expansion of vstruct connections, all nodes at once

The expansion changes the nodes of a network one after another and in place. What it does to a node
depends on the other nodes through their types only, which it leaves alone, and so every node comes
out as if all of them had been changed at once.

## Main definitions

- `ShaderDescriptor.memberPairs` — the vstruct connections of a node, each with the members that it
  can stand for
- `ShaderCatalog.offers`, `ShaderCatalog.expandedFeed?` — what these pairs offer, and the first
  offer to an input that has no connection
- `ShaderCatalog.Rewrites` — what becomes of one node, told from the network before the expansion

## Main results

- `ShaderDescriptor.mem_memberPairs_iff`, `ShaderCatalog.memberFeed?_eq_some_iff` — the pairs and
  what they offer, told from what the shaders declare
- `ShaderCatalog.expandVstructs_eq` — changing the nodes in place or all at once is the same
- `ShaderCatalog.rewrites_of_applyTo` — what the changes of one node amount to
- `ShaderCatalog.expandVstructs_rewrites` — the expansion as one simultaneous rewrite
-/

namespace ShadingGraph

/-! ## What a node is offered -/

namespace ShaderDescriptor

/-- The connections of the vstruct inputs among the entries of a node, each paired with every input
that is a member of the one it feeds. -/
def memberPairs (d : ShaderDescriptor) (entries : List (String × List Connection)) :
    List (Connection × ShaderProperty) :=
  entries.flatMap fun e =>
    if isVstruct (d.input? e.1) then
      e.2.flatMap fun connection =>
        (d.inputs.filter fun p => p.memberOf = some e.1).map fun member => (connection, member)
    else []

/-- The entries of a node that are not those of a vstruct input. -/
def plainEntries (d : ShaderDescriptor) (node : MaterialNode) : List (String × List Connection) :=
  node.inputs.entries.filter fun e => !isVstruct (d.input? e.1)

end ShaderDescriptor

namespace ShaderCatalog

/-- What a vstruct connection gives to a member: the first output of the feeding shader that is the
matching member of the output that the connection names, if that is a vstruct. -/
def memberFeed? (c : ShaderCatalog) (net : MaterialNetwork) (connection : Connection)
    (member : ShaderProperty) : Option Connection :=
  match c.describeNode net connection.node with
  | none => none
  | some source =>
    if isVstruct (source.output? connection.output) then
      (source.outputs.find? fun p =>
          p.memberOf = some connection.output ∧ p.memberName = member.memberName).map fun output =>
        ⟨connection.node, output.name⟩
    else none

/-- What a pair offers, under the name of the member input. -/
def offer? (c : ShaderCatalog) (net : MaterialNetwork) (p : Connection × ShaderProperty) :
    Option (String × Connection) :=
  (c.memberFeed? net p.1 p.2).map fun connection => (p.2.name, connection)

/-- All offers to a node, in the order of its pairs. -/
def offers (c : ShaderCatalog) (net : MaterialNetwork) (d : ShaderDescriptor)
    (node : MaterialNode) : List (String × Connection) :=
  (d.memberPairs node.inputs.entries).filterMap (c.offer? net)

/-- What an input is connected to: the first offer, unless it has a connection already. -/
def expandedFeed? (c : ShaderCatalog) (net : MaterialNetwork) (d : ShaderDescriptor)
    (node : MaterialNode) (input : String) : Option Connection :=
  if node.connectionsTo input = [] then OrderedMap.lookup input (c.offers net d node) else none

/-- The inputs that are connected, in the order of their first offers. -/
def expandedInputs (c : ShaderCatalog) (net : MaterialNetwork) (d : ShaderDescriptor)
    (node : MaterialNode) : List String :=
  ((c.offers net d node).map Prod.fst).eraseDups.filter fun input => node.connectionsTo input = []

/-- The entries of a node whose vstruct inputs are gone: the others stay in their places, with what
they are fed behind the connections they have, and the inputs without an entry follow. -/
def rewrittenEntries (c : ShaderCatalog) (net : MaterialNetwork) (d : ShaderDescriptor)
    (node : MaterialNode) : List (String × List Connection) :=
  ((d.plainEntries node).map fun e => (e.1, e.2 ++ (c.expandedFeed? net d node e.1).toList)) ++
    ((c.expandedInputs net d node).filter fun input =>
        input ∉ (d.plainEntries node).map Prod.fst).map fun input =>
      (input, (c.expandedFeed? net d node input).toList)

/-- What becomes of a node, told from the network before any node was changed. -/
structure Rewrites (c : ShaderCatalog) (net : MaterialNetwork) (node node' : MaterialNode) :
    Prop where
  typeId : node'.typeId = node.typeId
  parameters : node'.parameters = node.parameters
  /-- A node of unknown type is left alone. -/
  unknown : c.describe node.typeId = none → node' = node
  /-- So is a node without an entry for a vstruct input. -/
  plain : ∀ d, c.describe node.typeId = some d →
    (∀ input ∈ node.inputs.keys, isVstruct (d.input? input) = false) → node' = node
  entries : ∀ d, c.describe node.typeId = some d →
    node'.inputs.entries = c.rewrittenEntries net d node

end ShaderCatalog

theorem isVstruct_eq_true_iff {o : Option ShaderProperty} :
    isVstruct o = true ↔ ∃ p, o = some p ∧ p.type = .vstruct := by
  cases o <;> simp [isVstruct]

/-- The pairs of a node are its connections on vstruct inputs with the members of these inputs. -/
theorem ShaderDescriptor.mem_memberPairs_iff {d : ShaderDescriptor}
    {entries : List (String × List Connection)} {p : Connection × ShaderProperty} :
    p ∈ d.memberPairs entries ↔
      ∃ e ∈ entries, (∃ input, FirstNamed d.inputs e.1 input ∧ input.type = .vstruct) ∧
        p.1 ∈ e.2 ∧ p.2 ∈ d.inputs ∧ p.2.memberOf = some e.1 := by
  simp only [← input?_eq_some_iff, ← isVstruct_eq_true_iff]
  rw [memberPairs, List.mem_flatMap]
  refine exists_congr fun e => and_congr_right fun _ => ?_
  by_cases hvstruct : isVstruct (d.input? e.1) = true
  · rw [if_pos hvstruct]
    constructor
    · intro hp
      obtain ⟨connection, hconnection, hp⟩ := List.mem_flatMap.1 hp
      obtain ⟨member, hmember, rfl⟩ := List.mem_map.1 hp
      obtain ⟨hinput, hof⟩ := List.mem_filter.1 hmember
      exact ⟨hvstruct, hconnection, hinput, of_decide_eq_true hof⟩
    · rintro ⟨-, hconnection, hinput, hof⟩
      exact List.mem_flatMap.2 ⟨p.1, hconnection,
        List.mem_map.2 ⟨p.2, List.mem_filter.2 ⟨hinput, decide_eq_true hof⟩, rfl⟩⟩
  · simp [hvstruct]

/-- A member is fed by the first output that is the member of the same name of the vstruct output
that its connection names. -/
theorem ShaderCatalog.memberFeed?_eq_some_iff {c : ShaderCatalog} {net : MaterialNetwork}
    {connection feed : Connection} {member : ShaderProperty} :
    c.memberFeed? net connection member = some feed ↔
      ∃ source, c.describeNode net connection.node = some source ∧
        (∃ output, FirstNamed source.outputs connection.output output ∧ output.type = .vstruct) ∧
        ∃ front output back, source.outputs = front ++ output :: back ∧
          (output.memberOf = some connection.output ∧ output.memberName = member.memberName) ∧
          (∀ p ∈ front, ¬ (p.memberOf = some connection.output ∧
            p.memberName = member.memberName)) ∧
          feed = ⟨connection.node, output.name⟩ := by
  simp only [← ShaderDescriptor.output?_eq_some_iff, ← isVstruct_eq_true_iff]
  rw [memberFeed?]
  cases hsource : c.describeNode net connection.node with
  | none => simp
  | some source =>
    by_cases hvstruct : isVstruct (source.output? connection.output) = true
    · simp only [hvstruct, if_true, Option.map_eq_some_iff, List.find?_eq_some_iff_append]
      constructor
      · rintro ⟨output, ⟨hmember, front, back, houtputs, hfirst⟩, rfl⟩
        refine ⟨source, rfl, hvstruct, front, output, back, houtputs, of_decide_eq_true hmember,
          fun p hp => ?_, rfl⟩
        simpa only [Bool.not_eq_true', decide_eq_false_iff_not] using hfirst p hp
      · rintro ⟨_, hsame, -, front, output, back, houtputs, hmember, hfirst, rfl⟩
        cases hsame
        exact ⟨output, ⟨decide_eq_true hmember, front, back, houtputs,
          fun p hp => by rw [decide_eq_false (hfirst p hp)]; rfl⟩, rfl⟩
    · simp [hvstruct]

/-! ## Disconnecting and connecting -/

namespace VstructExpansion

variable {node : MaterialNode}

/-- Accepts an offer, unless the input has a connection or an earlier offer was accepted. -/
def accept (node : MaterialNode) (added : List (String × Connection))
    (offer : String × Connection) : List (String × Connection) :=
  if node.connectionsTo offer.1 = [] ∧ OrderedMap.lookup offer.1 added = none then added ++ [offer]
  else added

theorem accept_eq_ite (added : List (String × Connection)) (offer : String × Connection) :
    accept node added offer =
      if !(node.connectionsTo offer.1).isEmpty || added.any fun e => e.1 == offer.1 then added
      else added ++ [offer] := by
  have hany : (added.any fun e => e.1 == offer.1) = true ↔ offer.1 ∈ added.map Prod.fst := by simp
  rw [accept]
  by_cases hold : offer.1 ∈ added.map Prod.fst
  · have hfirst : OrderedMap.lookup offer.1 added ≠ none := fun hnone =>
      OrderedMap.lookup_eq_none_iff.1 hnone hold
    rw [if_neg fun h => hfirst h.2, if_pos (by rw [hany.2 hold, Bool.or_true])]
  · have hfirst := OrderedMap.lookup_eq_none_iff.2 hold
    have hno : (added.any fun e => e.1 == offer.1) = false := by
      rw [← Bool.not_eq_true, hany]
      exact hold
    rw [hfirst, hno]
    by_cases hfree : node.connectionsTo offer.1 = [] <;> simp [hfree]

/-- The offer that is accepted for an input without a connection is the first one. -/
theorem lookup_foldl_accept (offers : List (String × Connection)) (input : String) :
    OrderedMap.lookup input (offers.foldl (accept node) []) =
      if node.connectionsTo input = [] then OrderedMap.lookup input offers else none := by
  induction offers using List.reverseRecOn with
  | nil => simp [OrderedMap.lookup]
  | append_singleton offers offer ih =>
    obtain ⟨name, connection⟩ := offer
    rw [List.foldl_append, List.foldl_cons, List.foldl_nil, accept]
    by_cases hname : name = input
    · subst hname
      rw [ih]
      by_cases hfree : node.connectionsTo name = []
      · cases hfirst : OrderedMap.lookup name offers with
        | none => simp [hfree, hfirst, ih, OrderedMap.lookup_append]
        | some first => simp [hfree, hfirst, ih, OrderedMap.lookup_append]
      · simp [hfree, ih]
    · have hother : OrderedMap.lookup input [(name, connection)] = none := by
        simp [OrderedMap.lookup, hname]
      rw [OrderedMap.lookup_append, hother, Option.or_none, ← ih]
      split
      · rw [OrderedMap.lookup_append, hother, Option.or_none]
      · rfl

/-- The inputs with an accepted offer are those without a connection, in the order of the first
offers. -/
theorem keys_foldl_accept (offers : List (String × Connection)) :
    (offers.foldl (accept node) []).map Prod.fst =
      (offers.map Prod.fst).eraseDups.filter fun input => node.connectionsTo input = [] := by
  induction offers using List.reverseRecOn with
  | nil => simp
  | append_singleton offers offer ih =>
    rw [List.foldl_append, List.foldl_cons, List.foldl_nil, List.map_append, List.map_singleton,
      List.eraseDups_append, List.filter_append, ← ih, accept, lookup_foldl_accept]
    by_cases hold : offer.1 ∈ offers.map Prod.fst
    · have hfirst : OrderedMap.lookup offer.1 offers ≠ none := fun hnone =>
        OrderedMap.lookup_eq_none_iff.1 hnone hold
      have hnew : [offer.1].removeAll (offers.map Prod.fst) = [] := by
        simp [List.removeAll, hold]
      by_cases hfree : node.connectionsTo offer.1 = [] <;> simp [hfree, hfirst, hnew]
    · have hfirst : OrderedMap.lookup offer.1 offers = none := OrderedMap.lookup_eq_none_iff.2 hold
      have hnew : [offer.1].removeAll (offers.map Prod.fst) = [offer.1] := by
        simp [List.removeAll, hold]
      by_cases hfree : node.connectionsTo offer.1 = [] <;>
        simp [hfree, hfirst, hnew, List.eraseDups_cons]

theorem nodup_foldl_accept (offers : List (String × Connection)) :
    ((offers.foldl (accept node) []).map Prod.fst).Nodup := by
  induction offers using List.reverseRecOn with
  | nil => simp
  | append_singleton offers offer ih =>
    rw [List.foldl_append, List.foldl_cons, List.foldl_nil, accept]
    split
    · rename_i hfree
      have hnew := OrderedMap.lookup_eq_none_iff.1 hfree.2
      rw [List.map_append, List.map_singleton]
      exact List.nodup_append.2 ⟨ih, by simp, by
        intro input hinput other hother heq
        exact hnew (List.mem_singleton.1 hother ▸ heq ▸ hinput)⟩
    · exact ih

/-- Connecting inputs one after another, each at most once: an input with an entry gets its
connection there, the others follow in order. -/
theorem entries_foldl_connect (node : MaterialNode) {added : List (String × Connection)}
    (hnodup : (added.map Prod.fst).Nodup) :
    (added.foldl (fun n e => n.connect e.1 e.2) node).inputs.entries =
      (node.inputs.entries.map fun e => (e.1, e.2 ++ (OrderedMap.lookup e.1 added).toList)) ++
        ((added.map Prod.fst).filter fun input => input ∉ node.inputs.keys).map fun input =>
          (input, (OrderedMap.lookup input added).toList) := by
  induction added generalizing node with
  | nil => simp [OrderedMap.lookup]
  | cons offer rest ih =>
    obtain ⟨name, connection⟩ := offer
    rw [List.map_cons, List.nodup_cons] at hnodup
    obtain ⟨hname, hrest⟩ := hnodup
    have hself : OrderedMap.lookup name ((name, connection) :: rest) = some connection := by
      simp [OrderedMap.lookup]
    have hother : ∀ input, name ≠ input →
        OrderedMap.lookup input ((name, connection) :: rest) = OrderedMap.lookup input rest :=
      fun input hne => by rw [OrderedMap.lookup, if_neg hne]
    have hlater : ∀ input ∈ rest.map Prod.fst,
        OrderedMap.lookup input ((name, connection) :: rest) = OrderedMap.lookup input rest :=
      fun input hinput => hother input fun heq => hname (heq ▸ hinput)
    have hnone : OrderedMap.lookup name rest = none := OrderedMap.lookup_eq_none_iff.2 hname
    rw [List.foldl_cons, ih _ hrest]
    by_cases hkey : name ∈ node.inputs.keys
    · have hkeys : (node.connect name connection).inputs.keys = node.inputs.keys := by
        rw [MaterialNode.connect, OrderedMap.alter, OrderedMap.keys_insert, if_pos hkey]
      rw [hkeys, MaterialNode.connect, OrderedMap.entries_alter_of_mem hkey, List.map_map,
        List.map_cons, List.filter_cons_of_neg (by simpa using hkey)]
      congr 1
      · refine List.map_congr_left fun e _ => ?_
        by_cases heq : name = e.1
        · simp [← heq, hself, hnone]
        · simp [hother _ heq, Ne.symm heq]
      · refine List.map_congr_left fun input hinput => ?_
        rw [hlater _ (List.mem_filter.1 hinput).1]
    · have hkeys : (node.connect name connection).inputs.keys = node.inputs.keys ++ [name] := by
        rw [MaterialNode.connect, OrderedMap.alter, OrderedMap.keys_insert, if_neg hkey]
      have hfilter : ((rest.map Prod.fst).filter fun input => input ∉ node.inputs.keys ++ [name]) =
          (rest.map Prod.fst).filter fun input => input ∉ node.inputs.keys := by
        refine List.filter_congr fun input hinput => ?_
        have hne : input ≠ name := fun heq => hname (heq ▸ hinput)
        simp [hne]
      rw [hkeys, hfilter, MaterialNode.connect, OrderedMap.entries_alter_of_not_mem hkey,
        List.map_append, List.map_singleton, List.map_cons,
        List.filter_cons_of_pos (by simpa using hkey), List.map_cons, List.append_assoc, hself,
        hnone]
      congr 1
      · refine List.map_congr_left fun e he => ?_
        have hne : name ≠ e.1 := fun heq => hkey (heq ▸ List.mem_map_of_mem he)
        rw [hother _ hne]
      · refine congrArg ((name, [connection]) :: ·) (List.map_congr_left fun input hinput => ?_)
        rw [hlater _ (List.mem_filter.1 hinput).1]

theorem entries_foldl_disconnect (node : MaterialNode) (removed : List String) :
    (removed.foldl MaterialNode.disconnect node).inputs.entries =
      node.inputs.entries.filter fun e => e.1 ∉ removed := by
  induction removed generalizing node with
  | nil => simp
  | cons input rest ih =>
    rw [List.foldl_cons, ih, MaterialNode.disconnect, OrderedMap.entries_erase, List.filter_filter]
    refine List.filter_congr fun e _ => ?_
    simp [Bool.and_comm]

/-- The changes of a node concern its inputs alone. -/
theorem applyTo_eq (x : VstructExpansion) (node : MaterialNode) :
    x.applyTo node = { node with inputs := (x.applyTo node).inputs } := by
  have hconnected : ∀ (added : List (String × Connection)) (n : MaterialNode),
      added.foldl (fun n e => n.connect e.1 e.2) n =
        { n with inputs := (added.foldl (fun n e => n.connect e.1 e.2) n).inputs } := by
    intro added
    induction added with
    | nil => intro n; rfl
    | cons e rest ih => intro n; exact ih _
  have hdisconnected : ∀ (removed : List String) (n : MaterialNode),
      removed.foldl MaterialNode.disconnect n =
        { n with inputs := (removed.foldl MaterialNode.disconnect n).inputs } := by
    intro removed
    induction removed with
    | nil => intro n; rfl
    | cons input rest ih => intro n; exact ih _
  rw [applyTo, hconnected, hdisconnected]

theorem applyTo_empty (node : MaterialNode) : empty.applyTo node = node := rfl

end VstructExpansion

/-! ## The changes of one node -/

namespace ShaderCatalog

variable {c : ShaderCatalog} {net : MaterialNetwork} {path : String} {node : MaterialNode}
  {d : ShaderDescriptor}

def acceptFrom (c : ShaderCatalog) (net : MaterialNetwork) (node : MaterialNode)
    (added : List (String × Connection)) (p : Connection × ShaderProperty) :
    List (String × Connection) :=
  match c.offer? net p with
  | some offer => VstructExpansion.accept node added offer
  | none => added

theorem foldl_acceptFrom (pairs : List (Connection × ShaderProperty))
    (added : List (String × Connection)) :
    pairs.foldl (c.acceptFrom net node) added =
      (pairs.filterMap (c.offer? net)).foldl (VstructExpansion.accept node) added := by
  rw [List.foldl_filterMap]
  congr 1
  funext added p
  rw [acceptFrom]
  cases c.offer? net p <;> rfl

/-- The lookup of the pass, where the feeding shader is known and its output is a vstruct. -/
theorem memberFeed?_eq_map {connection : Connection} {source : ShaderDescriptor}
    (hsource : c.describeNode net connection.node = some source)
    (hvstruct : isVstruct (source.output? connection.output) = true) (member : ShaderProperty) :
    c.memberFeed? net connection member =
      (source.outputMember? connection.output member.memberName).map fun output =>
        ⟨connection.node, output.name⟩ := by
  rw [memberFeed?, hsource]
  exact if_pos hvstruct

theorem added_expandConnection {input : String} {x : VstructExpansion} {connection : Connection} :
    (c.expandConnection net path node d input x connection).added =
      ((d.inputMembers input).map fun member => (connection, member)).foldl
        (c.acceptFrom net node) x.added := by
  rw [expandConnection, List.foldl_map]
  cases hsource : c.describeNode net connection.node with
  | none =>
    have hstep : ∀ added member, c.acceptFrom net node added (connection, member) = added := by
      intro added member
      simp [acceptFrom, offer?, memberFeed?, hsource]
    simp [hstep]
  | some source =>
    by_cases hvstruct : isVstruct (source.output? connection.output) = true
    · simp only [hvstruct, if_true]
      congr 1
      funext added member
      have hfeed := memberFeed?_eq_map hsource hvstruct member
      cases houtput : source.outputMember? connection.output member.memberName with
      | none => simp [expandMember, acceptFrom, offer?, hfeed, houtput]
      | some output =>
        have hoffer : c.offer? net (connection, member) =
            some (member.name, ⟨connection.node, output.name⟩) := by
          simp [offer?, hfeed, houtput]
        rw [acceptFrom, hoffer, expandMember, houtput]
        exact (VstructExpansion.accept_eq_ite added
          (member.name, ⟨connection.node, output.name⟩)).symm
    · have hstep : ∀ added member, c.acceptFrom net node added (connection, member) = added := by
        intro added member
        simp [acceptFrom, offer?, memberFeed?, hsource, hvstruct]
      simp [hstep, hvstruct]

theorem added_expandInput {x : VstructExpansion} {entry : String × List Connection} :
    (c.expandInput net path node d x entry).added =
      (d.memberPairs [entry]).foldl (c.acceptFrom net node) x.added := by
  rw [expandInput, ShaderDescriptor.memberPairs, List.flatMap_singleton]
  by_cases hvstruct : isVstruct (d.input? entry.1) = true
  · rw [if_pos hvstruct, if_pos hvstruct, List.foldl_flatMap]
    exact (List.foldl_hom VstructExpansion.added
      fun x connection => added_expandConnection.symm).symm
  · rw [if_neg hvstruct, if_neg hvstruct, List.foldl_nil]

/-- The member inputs that the expansion connects are those with an accepted offer. -/
theorem added_expandNode (h : c.describe node.typeId = some d) :
    (c.expandNode net path node).added =
      (c.offers net d node).foldl (VstructExpansion.accept node) [] := by
  have hpairs : (d.memberPairs node.inputs.entries).foldl (c.acceptFrom net node) [] =
      node.inputs.entries.foldl
        (fun added e => (d.memberPairs [e]).foldl (c.acceptFrom net node) added) [] := by
    rw [ShaderDescriptor.memberPairs, List.foldl_flatMap]
    simp only [ShaderDescriptor.memberPairs, List.flatMap_singleton]
  rw [expandNode, h, offers, ← foldl_acceptFrom, hpairs]
  exact (List.foldl_hom VstructExpansion.added fun x e => added_expandInput.symm).symm

theorem removed_expandConnection {input : String} {x : VstructExpansion}
    {connection : Connection} :
    (c.expandConnection net path node d input x connection).removed = x.removed := by
  rw [expandConnection]
  cases c.describeNode net connection.node with
  | none => rfl
  | some source => by_cases h : isVstruct (source.output? connection.output) = true <;> simp [h]

theorem removed_expandInput {x : VstructExpansion} {entry : String × List Connection} :
    (c.expandInput net path node d x entry).removed =
      x.removed ++ [entry.1].filter fun input => isVstruct (d.input? input) := by
  rw [expandInput]
  by_cases hvstruct : isVstruct (d.input? entry.1) = true
  · rw [if_pos hvstruct, List.filter_cons_of_pos (by exact hvstruct), List.filter_nil]
    exact List.foldlRecOn
      (motive := fun y : VstructExpansion => y.removed = x.removed ++ [entry.1]) _ _ rfl
      fun y hy connection _ => removed_expandConnection.trans hy
  · rw [if_neg hvstruct, List.filter_cons_of_neg (by exact hvstruct), List.filter_nil,
      List.append_nil]

/-- The inputs that the expansion disconnects are the vstruct inputs that have an entry. -/
theorem removed_expandNode (h : c.describe node.typeId = some d) :
    (c.expandNode net path node).removed =
      node.inputs.keys.filter fun input => isVstruct (d.input? input) := by
  have hall : ∀ (entries : List (String × List Connection)) (x : VstructExpansion),
      (entries.foldl (c.expandInput net path node d) x).removed =
        x.removed ++ (entries.map Prod.fst).filter fun input => isVstruct (d.input? input) := by
    intro entries
    induction entries with
    | nil => intro x; simp
    | cons e rest ih =>
      intro x
      rw [List.foldl_cons, ih, removed_expandInput, List.append_assoc, ← List.filter_append,
        List.singleton_append, List.map_cons]
  rw [expandNode, h]
  exact hall node.inputs.entries .empty

theorem expandNode_of_unknown (h : c.describe node.typeId = none) :
    c.expandNode net path node = .empty := by
  rw [expandNode, h]

theorem expandNode_of_plain (h : c.describe node.typeId = some d)
    (hplain : ∀ input ∈ node.inputs.keys, isVstruct (d.input? input) = false) :
    c.expandNode net path node = .empty := by
  rw [expandNode, h]
  refine List.foldlRecOn (motive := fun x => x = VstructExpansion.empty) _ _ rfl ?_
  rintro x rfl e he
  have hinput : isVstruct (d.input? e.1) = false := hplain e.1 (List.mem_map_of_mem he)
  rw [expandInput, if_neg (by simp [hinput])]

theorem entries_applyTo (h : c.describe node.typeId = some d) :
    ((c.expandNode net path node).applyTo node).inputs.entries = c.rewrittenEntries net d node := by
  have hplain : ((c.expandNode net path node).removed.foldl MaterialNode.disconnect
      node).inputs.entries = d.plainEntries node := by
    rw [VstructExpansion.entries_foldl_disconnect, removed_expandNode h]
    refine List.filter_congr fun e he => ?_
    have hkey : e.1 ∈ node.inputs.keys := List.mem_map_of_mem he
    cases hvstruct : isVstruct (d.input? e.1) <;> simp [hkey, hvstruct]
  have hfeed : ∀ input, OrderedMap.lookup input (c.expandNode net path node).added =
      c.expandedFeed? net d node input := by
    intro input
    rw [added_expandNode h, VstructExpansion.lookup_foldl_accept]
    rfl
  have hnodup : ((c.expandNode net path node).added.map Prod.fst).Nodup := by
    rw [added_expandNode h]
    exact VstructExpansion.nodup_foldl_accept _
  rw [VstructExpansion.applyTo, VstructExpansion.entries_foldl_connect _ hnodup]
  simp only [OrderedMap.keys, hplain, hfeed]
  rw [added_expandNode h, VstructExpansion.keys_foldl_accept]
  rfl

/-- What the changes of one node amount to. -/
theorem rewrites_of_applyTo (c : ShaderCatalog) (net : MaterialNetwork) (path : String)
    (node : MaterialNode) :
    c.Rewrites net node ((c.expandNode net path node).applyTo node) where
  typeId := by rw [VstructExpansion.applyTo_eq]
  parameters := by rw [VstructExpansion.applyTo_eq]
  unknown h := by rw [expandNode_of_unknown h, VstructExpansion.applyTo_empty]
  plain d h hplain := by rw [expandNode_of_plain h hplain, VstructExpansion.applyTo_empty]
  entries d h := entries_applyTo h

theorem offer?_eq_some_iff {p : Connection × ShaderProperty} {input : String}
    {connection : Connection} :
    c.offer? net p = some (input, connection) ↔
      p.2.name = input ∧ c.memberFeed? net p.1 p.2 = some connection := by
  rw [offer?, Option.map_eq_some_iff]
  constructor
  · rintro ⟨found, hfound, heq⟩
    cases heq
    exact ⟨rfl, hfound⟩
  · rintro ⟨rfl, hfound⟩
    exact ⟨connection, hfound, rfl⟩

/-- What feeds an input comes from a pair with the input as its member. -/
theorem exists_pair_of_expandedFeed? {input : String} {connection : Connection}
    (h : c.expandedFeed? net d node input = some connection) :
    ∃ p ∈ d.memberPairs node.inputs.entries, p.2.name = input ∧
      c.memberFeed? net p.1 p.2 = some connection := by
  rw [expandedFeed?] at h
  split at h
  · obtain ⟨front, back, hoffers, -⟩ := OrderedMap.lookup_eq_some_iff.1 h
    have hmem : (input, connection) ∈ c.offers net d node := by simp [hoffers]
    obtain ⟨p, hp, hoffer⟩ := List.mem_filterMap.1 hmem
    exact ⟨p, hp, offer?_eq_some_iff.1 hoffer⟩
  · cases h

theorem expandedFeed?_ne_none_iff {input : String} :
    c.expandedFeed? net d node input ≠ none ↔
      node.connectionsTo input = [] ∧ ∃ p ∈ d.memberPairs node.inputs.entries,
        p.2.name = input ∧ c.memberFeed? net p.1 p.2 ≠ none := by
  constructor
  · intro h
    obtain ⟨connection, hfeed⟩ := Option.ne_none_iff_exists'.1 h
    obtain ⟨p, hp, hname, hmember⟩ := exists_pair_of_expandedFeed? hfeed
    have hfree : node.connectionsTo input = [] := by
      by_contra hconnected
      rw [expandedFeed?, if_neg hconnected] at h
      exact h rfl
    exact ⟨hfree, p, hp, hname, by simp [hmember]⟩
  · rintro ⟨hfree, p, hp, hname, hmember⟩
    obtain ⟨connection, hconnection⟩ := Option.ne_none_iff_exists'.1 hmember
    have hoffer : (input, connection) ∈ c.offers net d node :=
      List.mem_filterMap.2 ⟨p, hp, offer?_eq_some_iff.2 ⟨hname, hconnection⟩⟩
    rw [expandedFeed?, if_pos hfree]
    intro hnone
    exact OrderedMap.lookup_eq_none_iff.1 hnone (List.mem_map_of_mem hoffer)

theorem mem_expandedInputs_iff {input : String} :
    input ∈ c.expandedInputs net d node ↔ c.expandedFeed? net d node input ≠ none := by
  rw [expandedInputs, List.mem_filter, List.mem_eraseDups, decide_eq_true_iff, expandedFeed?]
  by_cases hfree : node.connectionsTo input = []
  · rw [if_pos hfree, ne_eq, OrderedMap.lookup_eq_none_iff, not_not]
    exact and_iff_left hfree
  · simp [hfree]

/-- After the expansion, a vstruct input has no connection but what it is fed, and any other input
keeps its connections in front of that. -/
theorem Rewrites.connectionsTo {node' : MaterialNode} (hrewrites : c.Rewrites net node node')
    (h : c.describe node.typeId = some d) (input : String) :
    node'.connectionsTo input =
      (if isVstruct (d.input? input) then [] else node.connectionsTo input) ++
        (c.expandedFeed? net d node input).toList := by
  have hplain : OrderedMap.lookup input (d.plainEntries node) =
      if isVstruct (d.input? input) then none else node.inputs.find? input := by
    rw [ShaderDescriptor.plainEntries,
      OrderedMap.lookup_filter (fun key => !isVstruct (d.input? key))]
    cases isVstruct (d.input? input) <;> rfl
  have hnew : ∀ keys : List String, input ∉ keys → OrderedMap.lookup input
      (((c.expandedInputs net d node).filter fun key => key ∉ keys).map fun key =>
        (key, (c.expandedFeed? net d node key).toList)) =
          (c.expandedFeed? net d node input).map fun connection => [connection] := by
    intro keys hkey
    rw [OrderedMap.lookup_map_keys (fun key => (c.expandedFeed? net d node key).toList)]
    have hfed := @mem_expandedInputs_iff c net node d input
    cases hfeed : c.expandedFeed? net d node input <;> simp [hfed, hkey, hfeed]
  rw [MaterialNode.connectionsTo, OrderedMap.find?, hrewrites.entries d h, rewrittenEntries,
    OrderedMap.lookup_append,
    OrderedMap.lookup_map_snd input fun key connections =>
      connections ++ (c.expandedFeed? net d node key).toList]
  have hkeys := @OrderedMap.lookup_eq_none_iff _ _ _ input (d.plainEntries node)
  cases hold : OrderedMap.lookup input (d.plainEntries node) with
  | none =>
    rw [hnew _ (hkeys.1 hold), MaterialNode.connectionsTo]
    rw [hold] at hplain
    cases hvstruct : isVstruct (d.input? input) with
    | true => cases c.expandedFeed? net d node input <;> rfl
    | false =>
      rw [hvstruct] at hplain
      rw [← (show none = node.inputs.find? input from hplain)]
      cases c.expandedFeed? net d node input <;> rfl
  | some connections =>
    rw [hold] at hplain
    cases hvstruct : isVstruct (d.input? input) with
    | true =>
      rw [hvstruct] at hplain
      cases hplain
    | false =>
      rw [hvstruct] at hplain
      rw [MaterialNode.connectionsTo,
        ← (show some connections = node.inputs.find? input from hplain)]
      rfl

/-! ## All nodes -/

/-- The changes of a node depend on the types of the nodes alone. -/
theorem expandNode_congr {net' : MaterialNetwork}
    (htypes : ∀ p, (net'.node? p).map MaterialNode.typeId = (net.node? p).map MaterialNode.typeId)
    (path : String) (node : MaterialNode) :
    c.expandNode net' path node = c.expandNode net path node := by
  have hdescribe : ∀ p, c.describeNode net' p = c.describeNode net p := by
    intro p
    have hbind : ∀ n : Option MaterialNode, (n.bind fun n => c.describe n.typeId) =
        (n.map MaterialNode.typeId).bind c.describe := by
      intro n
      cases n <;> rfl
    rw [describeNode, describeNode, hbind, hbind, htypes]
  have hconnection : c.expandConnection net' = c.expandConnection net := by
    funext p n descriptor input x connection
    rw [expandConnection, expandConnection, hdescribe]
  have hinput : c.expandInput net' = c.expandInput net := by
    funext p n descriptor x entry
    rw [expandInput, expandInput, hconnection]
  rw [expandNode, expandNode, hinput]

def problemsAt (c : ShaderCatalog) (net : MaterialNetwork) (path : String) : List VstructProblem :=
  ((net.node? path).map fun node => (c.expandNode net path node).problems).getD []

/-- The network in which the nodes at some paths have been changed, by what the network was before
any of them was. -/
def expandAt (c : ShaderCatalog) (net : MaterialNetwork) (paths : List String) : MaterialNetwork :=
  { net with
    nodes := net.nodes.mapValues fun path node =>
      if path ∈ paths then (c.expandNode net path node).applyTo node else node }

theorem node?_expandAt {paths : List String} :
    (c.expandAt net paths).node? path = (net.node? path).map fun node =>
      if path ∈ paths then (c.expandNode net path node).applyTo node else node :=
  OrderedMap.find?_mapValues net.nodes _ path

theorem typeId_expandAt (paths : List String) (path : String) :
    ((c.expandAt net paths).node? path).map MaterialNode.typeId =
      (net.node? path).map MaterialNode.typeId := by
  rw [node?_expandAt, Option.map_map]
  congr 1
  funext node
  by_cases hmem : path ∈ paths
  · simp only [Function.comp_apply, if_pos hmem]
    rw [VstructExpansion.applyTo_eq]
  · simp only [Function.comp_apply, if_neg hmem]

/-- The next node is changed as it would have been at the start. -/
theorem expandPath_expandAt {paths : List String} {problems : List VstructProblem}
    (hpath : path ∈ net.paths) (hnew : path ∉ paths) :
    c.expandPath (c.expandAt net paths, problems) path =
      (c.expandAt net (paths ++ [path]), problems ++ c.problemsAt net path) := by
  cases hnode : net.node? path with
  | none => exact absurd hpath (OrderedMap.find?_eq_none_iff.1 hnode)
  | some node =>
    have hbefore : (c.expandAt net paths).node? path = some node := by
      rw [node?_expandAt, hnode, Option.map_some, if_neg hnew]
    have hsame : c.expandNode (c.expandAt net paths) path node = c.expandNode net path node :=
      expandNode_congr (typeId_expandAt paths) path node
    have hnodes : (c.expandAt net paths).nodes.modify path (c.expandNode net path node).applyTo =
        (c.expandAt net (paths ++ [path])).nodes := by
      apply OrderedMap.ext
      simp only [OrderedMap.modify, OrderedMap.entries_mapValues, expandAt, List.map_map]
      refine List.map_congr_left fun e he => ?_
      by_cases heq : e.1 = path
      · have hentry : net.nodes.find? path = some e.2 := OrderedMap.find?_of_mem (heq ▸ he)
        obtain rfl : node = e.2 := Option.some.inj (hnode.symm.trans hentry)
        simp [heq, hnew]
      · simp [heq]
    rw [expandPath, hbefore, problemsAt, hnode]
    simp only [hsame, MaterialNetwork.modifyNode, hnodes]
    rfl

/-- Changing the nodes one after another and in place does what changing all of them at once
does. -/
theorem expandVstructs_eq (c : ShaderCatalog) (net : MaterialNetwork) :
    c.expandVstructs net = (c.expandAt net net.paths, net.paths.flatMap (c.problemsAt net)) := by
  have hstart : c.expandAt net [] = net := by
    have hnodes : (c.expandAt net []).nodes = net.nodes := by
      apply OrderedMap.ext
      simp [expandAt]
    exact congrArg (fun nodes => (⟨nodes, net.terminals⟩ : MaterialNetwork)) hnodes
  -- Along the paths, those behind have been changed and those ahead have not.
  have hrun : ∀ paths : List String, paths.Nodup → paths ⊆ net.paths →
      paths.foldl c.expandPath (net, []) =
        (c.expandAt net paths, paths.flatMap (c.problemsAt net)) := by
    intro paths
    induction paths using List.reverseRecOn with
    | nil =>
      intro _ _
      rw [List.foldl_nil, hstart, List.flatMap_nil]
    | append_singleton paths path ih =>
      intro hnodup hsubset
      obtain ⟨hfront, -, hdisjoint⟩ := List.nodup_append.1 hnodup
      have hnew : path ∉ paths := fun hmem =>
        hdisjoint path hmem path List.mem_cons_self rfl
      rw [List.foldl_append, ih hfront fun p hp => hsubset (List.mem_append_left _ hp),
        List.foldl_cons, List.foldl_nil, expandPath_expandAt (hsubset (by simp)) hnew,
        List.flatMap_append, List.flatMap_singleton]
  exact hrun net.paths net.nodes.nodup (List.Subset.refl _)

theorem node?_expandVstructs (c : ShaderCatalog) (net : MaterialNetwork) (path : String) :
    (c.expandVstructs net).1.node? path =
      (net.node? path).map fun node => (c.expandNode net path node).applyTo node := by
  rw [expandVstructs_eq, node?_expandAt]
  cases hnode : net.node? path with
  | none => rfl
  | some node =>
    have hmem : path ∈ net.paths := by
      by_contra hno
      have hnone : net.node? path = none := OrderedMap.find?_eq_none_iff.2 hno
      rw [hnode] at hnone
      cases hnone
    rw [Option.map_some, Option.map_some, if_pos hmem]

theorem exists_rewrites (hnode : net.node? path = some node) :
    ∃ node', (c.expandVstructs net).1.node? path = some node' ∧ c.Rewrites net node node' := by
  refine ⟨_, ?_, c.rewrites_of_applyTo net path node⟩
  rw [node?_expandVstructs, hnode, Option.map_some]

/-- The expansion of the vstruct connections of a network keeps the paths in their order and the
terminals, and rewrites every node as the network was before. -/
theorem expandVstructs_rewrites (c : ShaderCatalog) (net : MaterialNetwork) :
    (c.expandVstructs net).1.paths = net.paths ∧
      (c.expandVstructs net).1.terminals = net.terminals ∧
      ∀ path node, net.node? path = some node →
        ∃ node', (c.expandVstructs net).1.node? path = some node' ∧ c.Rewrites net node node' := by
  refine ⟨?_, ?_, ?_⟩
  · rw [expandVstructs_eq]
    exact OrderedMap.keys_mapValues _ _
  · rw [expandVstructs_eq]
    rfl
  · intro path node hnode
    exact exists_rewrites hnode

end ShaderCatalog

/-! ## A layer on another one -/

/-- A shader that takes a layer and gives one, with the members of a layer beside it. One of them is
a layer in turn. -/
def layerShader : ShaderDescriptor :=
  (ShaderDescriptor.ofIdentifier "Layer" oslSource "bxdf").withProperties
    [.named "base" .vstruct, (ShaderProperty.named "gain" .float).asMember "base" "gain",
      (ShaderProperty.named "tint" .color).asMember "base" "tint",
      (ShaderProperty.named "coat" .vstruct).asMember "base" "coat"]
    [.named "out" .vstruct, (ShaderProperty.named "outGain" .float).asMember "out" "gain",
      (ShaderProperty.named "outTint" .color).asMember "out" "tint",
      (ShaderProperty.named "outCoat" .vstruct).asMember "out" "coat"]

def layerCatalog : ShaderCatalog :=
  ⟨.ofList [layerShader.withImplementation "Layer.oso"], [], fun _ => false⟩

/-- A layer with a tint of its own, on a layer that is not there and on one that is. -/
def sampleLayers : MaterialNetwork :=
  ⟨.ofList [("A", .ofType "Layer"),
    ("B", (((MaterialNode.ofType "Layer").connect "base" ⟨"Gone", "out"⟩).connect "base"
      ⟨"A", "out"⟩).connect "tint" ⟨"A", "outGain"⟩)], ∅⟩

theorem expandVstructs_sampleLayers :
    ∃ node', (layerCatalog.expandVstructs sampleLayers).1.node? "B" = some node' ∧
      node'.inputs.entries =
        [("tint", [⟨"A", "outGain"⟩]), ("gain", [⟨"A", "outGain"⟩]),
          ("coat", [⟨"A", "outCoat"⟩])] := by
  obtain ⟨node', hnode, hrewrites⟩ :=
    (ShaderCatalog.expandVstructs_rewrites layerCatalog sampleLayers).2.2 "B" _ rfl
  refine ⟨node', hnode, ?_⟩
  rw [hrewrites.entries _ rfl]
  decide

end ShadingGraph
