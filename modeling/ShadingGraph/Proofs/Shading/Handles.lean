import Mathlib.Data.List.Forall2
import Mathlib.Data.List.TakeWhile
import ShadingGraph.Proofs.Shading.References

/-!
# The handles that a node reports

A node reports the handles of the nodes that it refers to by cutting the texts of its references at
the first colon. The handle is a path of the material network and can have a colon itself; then what
is reported is only its beginning.

## Main definitions

- `upToColon` — what remains of a handle
- `ShadingNode.references` — the references of a node in the order of its parameters
- `ShaderCatalog.Behind` — the connections behind all references of an emitted node

## Main results

- `referenceHandle?_referenceTarget` — what is read back from the text of a reference
- `ShaderCatalog.existsUnique_behind` — every reference has one connection behind it
- `ShaderCatalog.referencedHandles_eq_iff` — a node reports the paths that feed it, unless one has a
  colon
-/

namespace ShadingGraph

/-! ## Cutting at a colon -/

/-- What stands before the first colon of a text, or all of it where there is none. -/
def upToColon (s : String) : String := String.ofList (s.toList.takeWhile (· ≠ ':'))

theorem upToColon_eq_self_iff {s : String} : upToColon s = s ↔ ':' ∉ s.toList := by
  have htext : upToColon s = s ↔ s.toList.takeWhile (· ≠ ':') = s.toList := by
    unfold upToColon
    rw [← String.toList_inj, String.toList_ofList]
  rw [htext, List.takeWhile_eq_self_iff]
  constructor
  · intro h hcolon
    exact absurd rfl (of_decide_eq_true (h ':' hcolon))
  · intro h c hc
    exact decide_eq_true fun heq => h (heq ▸ hc)

theorem beforeColon_append_colon (front back : List Char) :
    beforeColon (front ++ ':' :: back) = some (front.takeWhile (· ≠ ':')) := by
  induction front with
  | nil => rfl
  | cons c front ih =>
    by_cases hc : c = ':'
    · simp [beforeColon, hc]
    · simp [beforeColon, hc, ih]

/-- Whatever the output is, the handle is read back up to its own first colon. -/
theorem referenceHandle?_referenceTarget (handle output : String) :
    referenceHandle? (referenceTarget handle output) = some (upToColon handle) := by
  have htext : (referenceTarget handle output).toList = handle.toList ++ ':' :: output.toList := by
    simp [referenceTarget]
  rw [referenceHandle?, htext, beforeColon_append_colon]
  rfl

/-! ## The references of a node -/

namespace ShadingNode

variable {n : ShadingNode} {name target : String}

/-- The references of a node in the order of its parameters, with the names that they are under. -/
def references (n : ShadingNode) : List (String × String) :=
  n.parameters.entries.filterMap fun e => e.2.target?.map fun target => (e.1, target)

theorem referencedHandles_eq_filterMap (n : ShadingNode) :
    n.referencedHandles = n.references.filterMap fun reference => referenceHandle? reference.2 := by
  unfold referencedHandles references OrderedMap.values
  rw [List.filterMap_map, List.filterMap_filterMap, List.filterMap_filterMap]
  congr 1
  funext e
  cases h : e.2.target? <;> simp [h]

theorem mem_references :
    (name, target) ∈ n.references ↔
      ∃ type, n.parameters.find? name = some (.reference type target) := by
  unfold references
  rw [List.mem_filterMap]
  constructor
  · rintro ⟨⟨name', p⟩, he, heq⟩
    cases p with
    | reference type target' =>
      cases heq
      exact ⟨type, OrderedMap.find?_of_mem he⟩
    | _ => cases heq
  · rintro ⟨type, hfind⟩
    exact ⟨(name, .reference type target), OrderedMap.find?_eq_some_iff_mem.1 hfind, rfl⟩

end ShadingNode

namespace ShaderCatalog

variable {c : ShaderCatalog} {net : MaterialNetwork} {failed : List String} {root name : String}
  {node : MaterialNode} {n : ShadingNode} {nodes : List ShadingNode}
  {entry entry' : String × Connection} {entries : List (String × Connection)}
  {r r' : ShadingParameter}

/-! ## The connections behind them -/

/-- Of the connections that are expressed under a name, only one is the last. -/
theorem RefersBy.unique (h : c.RefersBy net failed node name entry r)
    (h' : c.RefersBy net failed node name entry' r') : entry = entry' := by
  obtain ⟨descriptor, front, back, hdescribe, hsplit, hentry, hlast⟩ := h
  obtain ⟨descriptor', front', back', hdescribe', hsplit', hentry', hlast'⟩ := h'
  rw [hdescribe, Option.some.injEq] at hdescribe'
  subst hdescribe'
  rcases List.append_eq_append_iff.1 (hsplit.symm.trans hsplit') with
    ⟨between, -, hbetween⟩ | ⟨between, -, hbetween⟩
  · rcases between with _ | ⟨first, between⟩
    · exact (List.cons.inj hbetween).1
    · obtain ⟨-, rfl⟩ := List.cons.inj hbetween
      exact absurd hentry' (hlast entry' (by simp) r')
  · rcases between with _ | ⟨first, between⟩
    · exact (List.cons.inj hbetween).1.symm
    · obtain ⟨-, rfl⟩ := List.cons.inj hbetween
      exact absurd hentry (hlast' entry (by simp) r)

theorem MadeFrom.unique (h : c.convert net root = .ok nodes) (hn : n ∈ nodes)
    (hmade : c.MadeFrom net root n name entry) (hmade' : c.MadeFrom net root n name entry') :
    entry = entry' := by
  obtain ⟨before, after, rfl⟩ := List.append_of_mem hn
  obtain ⟨front, node, back, hsplit, -⟩ := exists_split_of_convert h
  obtain ⟨r, hrefers⟩ := (madeFrom_iff h hn hsplit).1 hmade
  obtain ⟨r', hrefers'⟩ := (madeFrom_iff h hn hsplit).1 hmade'
  exact hrefers.unique hrefers'

/-- The connections behind the references of an emitted node, reference by reference. -/
def Behind (c : ShaderCatalog) (net : MaterialNetwork) (root : String) (n : ShadingNode)
    (entries : List (String × Connection)) : Prop :=
  List.Forall₂ (fun reference entry => c.MadeFrom net root n reference.1 entry) n.references entries

private theorem exists_forall₂ {α β : Type} {R : α → β → Prop} :
    ∀ {l : List α}, (∀ a ∈ l, ∃ b, R a b) → ∃ l', List.Forall₂ R l l'
  | [], _ => ⟨[], .nil⟩
  | a :: l, h => by
    obtain ⟨b, hb⟩ := h a List.mem_cons_self
    obtain ⟨l', hl'⟩ := exists_forall₂ fun x hx => h x (List.mem_cons_of_mem a hx)
    exact ⟨b :: l', .cons hb hl'⟩

private theorem filterMap_eq_map_of_forall₂ {α β γ : Type} {f : α → Option γ} {g : β → γ}
    {l : List α} {l' : List β} (h : List.Forall₂ (fun a b => f a = some (g b)) l l') :
    l.filterMap f = l'.map g := by
  induction h with
  | nil => rfl
  | cons hhead _ ih => rw [List.filterMap_cons_some hhead, ih, List.map_cons]

theorem existsUnique_behind (h : c.convert net root = .ok nodes) (hn : n ∈ nodes) :
    ∃! entries, c.Behind net root n entries := by
  have hexists : ∀ reference ∈ n.references, ∃ entry, c.MadeFrom net root n reference.1 entry := by
    intro reference hreference
    obtain ⟨type, hfind⟩ := ShadingNode.mem_references.1 hreference
    obtain ⟨entry, -, hmade, -⟩ := exists_madeFrom h hn hfind
    exact ⟨entry, hmade⟩
  obtain ⟨entries, hentries⟩ := exists_forall₂ hexists
  refine ⟨entries, hentries, fun entries' hentries' => ?_⟩
  have hunique : Relator.RightUnique fun (reference : String × String) entry =>
      c.MadeFrom net root n reference.1 entry := fun _ _ _ => MadeFrom.unique h hn
  exact List.right_unique_forall₂' hunique hentries' hentries

/-- The text of a reference is made of the path that feeds its connection. -/
theorem MadeFrom.handle_of_reference {reference : String × String}
    (hreference : reference ∈ n.references)
    (hmade : c.MadeFrom net root n reference.1 entry) :
    referenceHandle? reference.2 = some (upToColon entry.2.node) := by
  obtain ⟨type, hfind⟩ := ShadingNode.mem_references.1 hreference
  obtain ⟨type', output, hfind'⟩ := hmade.find?
  rw [hfind, Option.some.injEq, ShadingParameter.reference.injEq] at hfind'
  rw [hfind'.2, referenceHandle?_referenceTarget]

theorem Behind.referencedHandles_eq (h : c.Behind net root n entries) :
    n.referencedHandles = entries.map fun entry => upToColon entry.2.node := by
  have hmade : List.Forall₂ (fun reference entry => reference ∈ n.references ∧
      c.MadeFrom net root n reference.1 entry) n.references entries :=
    (List.forall₂_and_left _ _).2 ⟨fun _ => id, h⟩
  rw [ShadingNode.referencedHandles_eq_filterMap]
  exact filterMap_eq_map_of_forall₂ (hmade.imp fun _ _ hboth => hboth.2.handle_of_reference hboth.1)

/-- A node reports the paths that feed the connections behind its references, each of them up to its
first colon; so they are reported as they are exactly when none of them has a colon. It is the same
with one reference to any handle. -/
theorem referencedHandles_eq_iff (h : c.convert net root = .ok nodes) (hn : n ∈ nodes) :
    (∃! entries, c.Behind net root n entries) ∧
      (∀ entries, c.Behind net root n entries →
        n.referencedHandles = entries.map (fun entry => upToColon entry.2.node) ∧
        (n.referencedHandles = entries.map (fun entry => entry.2.node) ↔
          ∀ entry ∈ entries, ':' ∉ entry.2.node.toList)) ∧
      ∀ (m : ShadingNode) (name handle output : String) (type : ReferenceType),
        m.parameters.entries = [(name, .reference type (referenceTarget handle output))] →
          (m.referencedHandles = [handle] ↔ ':' ∉ handle.toList) := by
  refine ⟨existsUnique_behind h hn, fun entries hbehind => ?_, ?_⟩
  · refine ⟨hbehind.referencedHandles_eq, ?_⟩
    rw [hbehind.referencedHandles_eq, List.map_inj_left]
    exact forall₂_congr fun entry _ => upToColon_eq_self_iff
  · intro m name handle output type hparameters
    have hhandles : m.referencedHandles = [upToColon handle] := by
      unfold ShadingNode.referencedHandles OrderedMap.values
      rw [hparameters]
      simp [ShadingParameter.target?, referenceHandle?_referenceTarget]
    rw [hhandles, List.singleton_inj]
    exact upToColon_eq_self_iff

end ShaderCatalog

theorem ShaderCatalog.Behind.eq_of_fedBy {c : ShaderCatalog} {net : MaterialNetwork}
    {root typeId feeding : String} {n : ShadingNode} {entries : List (String × Connection)}
    {reference : String × String} (h : c.Behind net root n entries)
    (hreferences : n.references = [reference])
    (hnode : net.node? n.handle = some (fedBy typeId feeding)) :
    entries = [("in", ⟨feeding, "out"⟩)] := by
  unfold Behind at h
  rw [hreferences, List.forall₂_cons_left_iff] at h
  obtain ⟨entry, rest, hmade, hrest, rfl⟩ := h
  obtain ⟨node, hnode', -, hentry⟩ := hmade.mem_connections
  rw [hnode, Option.some.injEq] at hnode'
  subst hnode'
  rw [List.forall₂_nil_left_iff.1 hrest, List.mem_singleton.1 hentry]

theorem referencedHandles_sampleChain :
    (∃ nodes, sampleCatalog.convert sampleChain "R" = .ok nodes) ∧
      ∃ entries,
        sampleCatalog.Behind sampleChain "R"
          (surfaceAt "R" [("in", .reference .float "B:out")]) entries ∧
        ["B"] = entries.map fun entry => entry.2.node := by
  obtain ⟨⟨entries, hbehind, -⟩, hreported, -⟩ :=
    ShaderCatalog.referencedHandles_eq_iff convert_sampleChain
      (List.mem_append_right _ List.mem_cons_self)
  refine ⟨⟨_, convert_sampleChain⟩, entries, hbehind, (hreported entries hbehind).2.2 ?_⟩
  rw [hbehind.eq_of_fedBy rfl rfl]
  decide

/-- A root that is fed by a node whose path has a colon. -/
def sampleColonChain : MaterialNetwork :=
  ⟨.ofList [("R", fedBy "Built" "N:1"), ("N:1", .ofType "Built")], ∅⟩

theorem convert_sampleColonChain :
    sampleCatalog.convert sampleColonChain "R" =
      .ok ([surfaceAt "N:1" []] ++ surfaceAt "R" [("in", .reference .float "N:1:out")] :: []) := by
  cbv

/-- What is reported for a node whose path has a colon is not its path. -/
theorem exists_handle_cut :
    ∃ nodes n entries, sampleCatalog.convert sampleColonChain "R" = .ok nodes ∧ n ∈ nodes ∧
      sampleCatalog.Behind sampleColonChain "R" n entries ∧
      n.referencedHandles = ["N"] ∧ entries.map (fun entry => entry.2.node) = ["N:1"] := by
  have hmem : surfaceAt "R" [("in", .reference .float "N:1:out")] ∈
      [surfaceAt "N:1" []] ++ surfaceAt "R" [("in", .reference .float "N:1:out")] :: [] :=
    List.mem_append_right _ List.mem_cons_self
  obtain ⟨entries, hbehind, -⟩ :=
    ShaderCatalog.existsUnique_behind convert_sampleColonChain hmem
  have hnode : entries = [("in", ⟨"N:1", "out"⟩)] := hbehind.eq_of_fedBy rfl rfl
  exact ⟨_, _, entries, convert_sampleColonChain, hmem, hbehind, by decide, by rw [hnode]; rfl⟩

end ShadingGraph
