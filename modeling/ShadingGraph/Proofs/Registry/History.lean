import Mathlib.Data.Finset.Card
import Mathlib.Data.List.Induction
import Mathlib.Data.List.Nodup
import Mathlib.Logic.Function.Basic
import ShadingGraph.Proofs.OrderedMap
import ShadingGraph.Registry.Basic

/-!
# What a registry answers after a history of registrations

A registry keeps for each identifier a list of descriptors, one for each source type. Replacing a
descriptor leaves it where it stands, so the table is a function of the history alone: places are
given by first registrations and contents by latest ones.

## Main definitions

- `ShaderRegistry.Registered`, `ShaderRegistry.Latest` — what the history says about an identifier
  and a source type
- `ShaderRegistry.identifiers`, `ShaderRegistry.sourceTypes` — the order of first registrations
- `ShaderRegistry.Tabulates` — the invariant: the table of a registry as a function of the history
- `ShaderRegistry.Reflects` — what lookups, listing and size say about the history

## Main results

- `ShaderRegistry.Tabulates.register` — the invariant is kept
- `ShaderRegistry.reflects_ofList` — what a registry answers after any history
-/

namespace ShadingGraph

/-! ## The order of first occurrences -/

section FirstOccurrences

variable {α : Type} [DecidableEq α] {l : List α} {a : α}

theorem eraseDups_concat :
    (l ++ [a]).eraseDups = if a ∈ l then l.eraseDups else l.eraseDups ++ [a] := by
  rw [List.eraseDups_append]
  by_cases h : a ∈ l
  · simp [List.removeAll, h]
  · simp [List.removeAll, h, List.eraseDups_cons]

theorem nodup_eraseDups (l : List α) : l.eraseDups.Nodup := by
  induction l using List.reverseRecOn with
  | nil => exact List.nodup_nil
  | append_singleton l a ih =>
    rw [eraseDups_concat]
    split
    · exact ih
    · rename_i hnew
      refine List.nodup_append.2 ⟨ih, List.nodup_singleton a, ?_⟩
      intro b hb c hc hbc
      exact hnew (List.mem_singleton.1 hc ▸ hbc ▸ List.mem_eraseDups.1 hb)

theorem head?_eraseDups (l : List α) : l.eraseDups.head? = l.head? := by
  cases l with
  | nil => rfl
  | cons a rest => rw [List.eraseDups_cons, List.head?_cons, List.head?_cons]

end FirstOccurrences

/-- What tells the descriptors of a registry apart: identifier and source type. -/
def ShaderDescriptor.key (d : ShaderDescriptor) : String × String := (d.identifier, d.sourceType)

namespace ShaderRegistry

variable {history : List ShaderDescriptor} {identifier sourceType : String}
  {d : ShaderDescriptor} {r : ShaderRegistry}

/-! ## What the history says -/

/-- A descriptor was registered for an identifier and a source type at some time. -/
def Registered (history : List ShaderDescriptor) (identifier sourceType : String) : Prop :=
  ∃ d ∈ history, d.key = (identifier, sourceType)

/-- A descriptor was registered for an identifier and a source type, and none since. -/
def Latest (history : List ShaderDescriptor) (identifier sourceType : String)
    (d : ShaderDescriptor) : Prop :=
  ∃ earlier later, history = earlier ++ d :: later ∧ d.key = (identifier, sourceType) ∧
    ¬ Registered later identifier sourceType

/-- The identifiers in the order of their first registrations. -/
def identifiers (history : List ShaderDescriptor) : List String :=
  (history.map (·.identifier)).eraseDups

/-- The source types of an identifier in the order of their first registrations. -/
def sourceTypes (history : List ShaderDescriptor) (identifier : String) : List String :=
  ((history.filter fun d => decide (d.identifier = identifier)).map (·.sourceType)).eraseDups

theorem mem_identifiers :
    identifier ∈ identifiers history ↔ ∃ d ∈ history, d.identifier = identifier := by
  simp [identifiers]

theorem mem_sourceTypes :
    sourceType ∈ sourceTypes history identifier ↔ Registered history identifier sourceType := by
  simp [sourceTypes, Registered, ShaderDescriptor.key, and_assoc]

theorem identifiers_concat :
    identifiers (history ++ [d]) =
      if d.identifier ∈ identifiers history then identifiers history
      else identifiers history ++ [d.identifier] := by
  simp only [identifiers, List.map_append, List.map_cons, List.map_nil, eraseDups_concat,
    List.mem_eraseDups]

theorem sourceTypes_concat_self :
    sourceTypes (history ++ [d]) d.identifier =
      if d.sourceType ∈ sourceTypes history d.identifier then sourceTypes history d.identifier
      else sourceTypes history d.identifier ++ [d.sourceType] := by
  have hown : (history ++ [d]).filter (fun e => decide (e.identifier = d.identifier)) =
      history.filter (fun e => decide (e.identifier = d.identifier)) ++ [d] := by simp
  rw [sourceTypes, hown, List.map_append, List.map_cons, List.map_nil, eraseDups_concat]
  simp only [sourceTypes, List.mem_eraseDups]

theorem sourceTypes_concat_of_ne (hne : identifier ≠ d.identifier) :
    sourceTypes (history ++ [d]) identifier = sourceTypes history identifier := by
  simp [sourceTypes, Ne.symm hne]

/-- The descriptor that was registered last for an identifier and a source type. -/
def latest? (history : List ShaderDescriptor) (identifier sourceType : String) :
    Option ShaderDescriptor :=
  history.reverse.find? fun d => decide (d.key = (identifier, sourceType))

theorem latest?_concat :
    latest? (history ++ [d]) identifier sourceType =
      if d.key = (identifier, sourceType) then some d
      else latest? history identifier sourceType := by
  by_cases h : d.key = (identifier, sourceType)
  · simp [latest?, h]
  · simp [latest?, h]

theorem latest?_eq_none_iff :
    latest? history identifier sourceType = none ↔ ¬ Registered history identifier sourceType := by
  simp [latest?, Registered]

theorem latest?_eq_some_iff :
    latest? history identifier sourceType = some d ↔ Latest history identifier sourceType d := by
  rw [latest?, List.find?_eq_some_iff_append]
  constructor
  · rintro ⟨hkey, later, earlier, hsplit, hlater⟩
    refine ⟨earlier.reverse, later.reverse, ?_, by simpa using hkey, ?_⟩
    · rw [List.reverse_eq_iff.1 hsplit]
      simp
    · rintro ⟨e, he, hkey'⟩
      simpa [hkey'] using hlater e (List.mem_reverse.1 he)
  · rintro ⟨earlier, later, rfl, hkey, hlater⟩
    refine ⟨by simpa using hkey, later.reverse, earlier.reverse, by simp, ?_⟩
    intro e he
    have hother : e.key ≠ (identifier, sourceType) := fun hkey' =>
      hlater ⟨e, List.mem_reverse.1 he, hkey'⟩
    simpa using hother

theorem Latest.key_eq (h : Latest history identifier sourceType d) :
    d.key = (identifier, sourceType) := by
  obtain ⟨_, _, -, hkey, -⟩ := h
  exact hkey

/-! ## The table -/

/-- The descriptors of an identifier: the latest one of each source type. -/
def newest (history : List ShaderDescriptor) (identifier : String) : List ShaderDescriptor :=
  (sourceTypes history identifier).filterMap (latest? history identifier)

/-- The table of a registry has the identifiers of the history with their newest descriptors. -/
def Tabulates (r : ShaderRegistry) (history : List ShaderDescriptor) : Prop :=
  r.shaders.entries = (identifiers history).map fun identifier =>
    (identifier, newest history identifier)

/-- A descriptor takes the place of the one of its source type, or comes last. -/
theorem upsert_filterMap {ts : List String} (hnodup : ts.Nodup)
    {f : String → Option ShaderDescriptor} (hf : ∀ t e, f t = some e → e.sourceType = t)
    (hsome : ∀ t ∈ ts, ∃ e, f t = some e) :
    d.upsert (ts.filterMap f) =
      (if d.sourceType ∈ ts then ts else ts ++ [d.sourceType]).filterMap
        (Function.update f d.sourceType (some d)) := by
  induction ts with
  | nil => simp [ShaderDescriptor.upsert]
  | cons t rest ih =>
    obtain ⟨e, he⟩ := hsome t List.mem_cons_self
    obtain ⟨hnew, hrest⟩ := List.nodup_cons.1 hnodup
    rw [List.filterMap_cons_some he, ShaderDescriptor.upsert, hf t e he]
    by_cases ht : t = d.sourceType
    · -- It is found at the head, and the source type does not come up again behind it.
      subst ht
      have hkept : ∀ t ∈ rest, f t = Function.update f d.sourceType (some d) t := by
        intro t ht
        have hne : t ≠ d.sourceType := fun heq => hnew (heq ▸ ht)
        exact (Function.update_of_ne hne _ _).symm
      rw [if_pos rfl, if_pos List.mem_cons_self,
        List.filterMap_cons_some (Function.update_self _ _ _), List.filterMap_congr hkept]
    · have hhead : Function.update f d.sourceType (some d) t = some e := by
        rw [Function.update_of_ne ht, he]
      rw [if_neg ht, ih hrest fun t' ht' => hsome t' (List.mem_cons_of_mem _ ht')]
      by_cases hmem : d.sourceType ∈ rest
      · rw [if_pos hmem, if_pos (List.mem_cons_of_mem _ hmem), List.filterMap_cons_some hhead]
      · rw [if_neg hmem, if_neg (List.not_mem_cons_of_ne_of_not_mem (Ne.symm ht) hmem),
          List.cons_append, List.filterMap_cons_some hhead]

theorem exists_latest? (h : sourceType ∈ sourceTypes history identifier) :
    ∃ d, latest? history identifier sourceType = some d :=
  Option.ne_none_iff_exists'.1 fun hnone => latest?_eq_none_iff.1 hnone (mem_sourceTypes.1 h)

theorem sourceType_of_latest? (h : latest? history identifier sourceType = some d) :
    d.sourceType = sourceType :=
  congrArg Prod.snd (latest?_eq_some_iff.1 h).key_eq

theorem newest_concat_self :
    newest (history ++ [d]) d.identifier = d.upsert (newest history d.identifier) := by
  have hlatest : latest? (history ++ [d]) d.identifier =
      Function.update (latest? history d.identifier) d.sourceType (some d) := by
    funext t
    rw [latest?_concat, Function.update_apply]
    by_cases ht : t = d.sourceType
    · rw [if_pos ht, if_pos (ht ▸ rfl)]
    · rw [if_neg ht, if_neg fun hkey => ht (congrArg Prod.snd hkey).symm]
  rw [newest, newest, sourceTypes_concat_self, hlatest]
  exact (upsert_filterMap (nodup_eraseDups _) (fun t e => sourceType_of_latest?)
    fun t => exists_latest?).symm

theorem newest_concat_of_ne (hne : identifier ≠ d.identifier) :
    newest (history ++ [d]) identifier = newest history identifier := by
  rw [newest, newest, sourceTypes_concat_of_ne hne]
  refine List.filterMap_congr fun t _ => ?_
  rw [latest?_concat, if_neg fun hkey => hne (congrArg Prod.fst hkey).symm]

theorem not_registered (h : identifier ∉ identifiers history) :
    ¬ Registered history identifier sourceType := by
  rintro ⟨d, hd, hkey⟩
  exact h (mem_identifiers.2 ⟨d, hd, congrArg Prod.fst hkey⟩)

theorem newest_eq_nil (h : identifier ∉ identifiers history) : newest history identifier = [] := by
  refine List.filterMap_eq_nil_iff.2 fun t _ => ?_
  exact latest?_eq_none_iff.2 (not_registered h)

theorem Tabulates.keys (h : r.Tabulates history) : r.shaders.keys = identifiers history := by
  rw [OrderedMap.keys, h, List.map_map]
  exact List.map_id _

/-- A registration replaces in place, adds a source type, or adds an identifier. -/
theorem Tabulates.register (h : r.Tabulates history) (d : ShaderDescriptor) :
    (r.register d).Tabulates (history ++ [d]) := by
  have hkeys := h.keys
  unfold Tabulates at h ⊢
  rw [ShaderRegistry.register, identifiers_concat]
  by_cases hmem : d.identifier ∈ identifiers history
  · rw [if_pos hmem, OrderedMap.entries_alter_of_mem (hkeys ▸ hmem), h, List.map_map]
    refine List.map_congr_left fun identifier _ => ?_
    show (identifier, _) = (identifier, _)
    by_cases hid : identifier = d.identifier
    · rw [if_pos hid, hid, newest_concat_self]
    · rw [if_neg hid, newest_concat_of_ne hid]
  · rw [if_neg hmem, OrderedMap.entries_alter_of_not_mem (hkeys ▸ hmem), h, List.map_append]
    congr 1
    · refine List.map_congr_left fun identifier hid => ?_
      rw [newest_concat_of_ne fun heq => hmem (heq ▸ hid)]
    · rw [List.map_cons, List.map_nil, newest_concat_self, newest_eq_nil hmem]

theorem tabulates_ofList (history : List ShaderDescriptor) :
    (ofList history).Tabulates history := by
  induction history using List.reverseRecOn with
  | nil => rfl
  | append_singleton history d ih =>
    have hlast : ofList (history ++ [d]) = (ofList history).register d := List.foldl_append
    rw [hlast]
    exact ih.register d

/-! ## What the table answers -/

theorem find?_newest :
    ((newest history identifier).find? fun d => d.sourceType == sourceType) =
      latest? history identifier sourceType := by
  rw [newest, List.find?_filterMap]
  cases hfind : (sourceTypes history identifier).find? fun t =>
      (latest? history identifier t).any fun d => d.sourceType == sourceType with
  | none =>
    rw [List.find?_eq_none] at hfind
    rw [Option.bind_none, eq_comm, latest?_eq_none_iff]
    intro hregistered
    have hmem := mem_sourceTypes.2 hregistered
    obtain ⟨d, hd⟩ := exists_latest? hmem
    exact hfind sourceType hmem (by simp [hd, sourceType_of_latest? hd])
  | some t =>
    have hany := List.find?_some hfind
    obtain ⟨d, hd, hsame⟩ := (Option.any_eq_true _ _).1 hany
    have ht : t = sourceType := (sourceType_of_latest? hd).symm.trans (eq_of_beq hsame)
    rw [Option.bind_some, ht]

/-- The first descriptor of an identifier is the latest one of the source type registered first. -/
theorem head?_newest :
    (newest history identifier).head? =
      (history.find? fun e => decide (e.identifier = identifier)).bind fun first =>
        latest? history identifier first.sourceType := by
  have hfirst : (sourceTypes history identifier).head? =
      (history.find? fun e => decide (e.identifier = identifier)).map (·.sourceType) := by
    rw [sourceTypes, head?_eraseDups, List.head?_map, List.head?_filter]
  have hhead : (newest history identifier).head? =
      (sourceTypes history identifier).head?.bind (latest? history identifier) := by
    rw [newest]
    cases htypes : sourceTypes history identifier with
    | nil => rfl
    | cons t rest =>
      obtain ⟨d, hd⟩ := exists_latest? (htypes ▸ List.mem_cons_self)
      rw [List.filterMap_cons_some hd, List.head?_cons, List.head?_cons, Option.bind_some, hd]
  rw [hhead, hfirst, Option.bind_map]
  rfl

theorem Tabulates.lookup_eq (h : r.Tabulates history) (preference : List String) :
    r.lookup preference identifier =
      if preference.isEmpty then (newest history identifier).head?
      else preference.findSome? (latest? history identifier) := by
  have hfind : r.shaders.find? identifier =
      if identifier ∈ identifiers history then some (newest history identifier) else none := by
    rw [OrderedMap.find?, h, OrderedMap.lookup_map_keys]
  unfold lookup
  rw [hfind]
  by_cases hmem : identifier ∈ identifiers history
  · rw [if_pos hmem]
    simp only [Option.bind_eq_bind, Option.bind_some, find?_newest]
  · -- Nothing was registered for the identifier, so every answer is that there is nothing.
    rw [if_neg hmem, newest_eq_nil hmem]
    have hnone : ∀ t ∈ preference, latest? history identifier t = none := fun t _ =>
      latest?_eq_none_iff.2 (not_registered hmem)
    rw [List.findSome?_eq_none_iff.2 hnone, List.head?_nil, ite_self]
    rfl

theorem Tabulates.descriptors_eq (h : r.Tabulates history) :
    r.descriptors = (identifiers history).flatMap (newest history) := by
  rw [descriptors, OrderedMap.values, h, List.map_map, List.flatMap]
  rfl

theorem map_key_newest :
    (newest history identifier).map ShaderDescriptor.key =
      (sourceTypes history identifier).map (identifier, ·) := by
  have hkeys : ∀ ts ⊆ sourceTypes history identifier,
      (ts.filterMap (latest? history identifier)).map ShaderDescriptor.key =
        ts.map (identifier, ·) := by
    intro ts hts
    induction ts with
    | nil => rfl
    | cons t rest ih =>
      obtain ⟨ht, hrest⟩ := List.cons_subset.1 hts
      obtain ⟨d, hd⟩ := exists_latest? ht
      rw [List.filterMap_cons_some hd, List.map_cons, List.map_cons, ih hrest,
        (latest?_eq_some_iff.1 hd).key_eq]
  exact hkeys _ (List.Subset.refl _)

section Lookup

variable {preference : List String}

theorem Tabulates.lookup_eq_findSome? (h : r.Tabulates history) (hne : preference ≠ []) :
    r.lookup preference identifier = preference.findSome? (latest? history identifier) := by
  rw [h.lookup_eq, if_neg (by simpa using hne)]

theorem Tabulates.lookup_eq_some_iff (h : r.Tabulates history) (hne : preference ≠ []) :
    r.lookup preference identifier = some d ↔
      ∃ before chosen after, preference = before ++ chosen :: after ∧
        (∀ other ∈ before, ¬ Registered history identifier other) ∧
        Latest history identifier chosen d := by
  rw [h.lookup_eq_findSome? hne, List.findSome?_eq_some_iff]
  simp only [latest?_eq_none_iff, latest?_eq_some_iff]
  constructor
  · rintro ⟨before, chosen, after, hsplit, hlatest, hbefore⟩
    exact ⟨before, chosen, after, hsplit, hbefore, hlatest⟩
  · rintro ⟨before, chosen, after, hsplit, hbefore, hlatest⟩
    exact ⟨before, chosen, after, hsplit, hlatest, hbefore⟩

theorem Tabulates.lookup_eq_none_iff (h : r.Tabulates history) (hne : preference ≠ []) :
    r.lookup preference identifier = none ↔
      ∀ t ∈ preference, ¬ Registered history identifier t := by
  rw [h.lookup_eq_findSome? hne, List.findSome?_eq_none_iff]
  simp only [latest?_eq_none_iff]

theorem Tabulates.lookup_nil_eq (h : r.Tabulates history) :
    r.lookup [] identifier =
      (history.find? fun e => decide (e.identifier = identifier)).bind fun first =>
        latest? history identifier first.sourceType := by
  rw [h.lookup_eq, List.isEmpty_nil, if_pos rfl, head?_newest]

theorem Tabulates.lookup_nil_eq_some_iff (h : r.Tabulates history) :
    r.lookup [] identifier = some d ↔
      ∃ before first after, history = before ++ first :: after ∧
        (∀ e ∈ before, e.identifier ≠ identifier) ∧ first.identifier = identifier ∧
        Latest history identifier first.sourceType d := by
  rw [h.lookup_nil_eq, Option.bind_eq_some_iff]
  simp only [latest?_eq_some_iff, List.find?_eq_some_iff_append, decide_eq_true_eq,
    Bool.not_eq_true', decide_eq_false_iff_not]
  constructor
  · rintro ⟨first, ⟨hid, before, after, hsplit, hbefore⟩, hlatest⟩
    exact ⟨before, first, after, hsplit, hbefore, hid, hlatest⟩
  · rintro ⟨before, first, after, hsplit, hbefore, hid, hlatest⟩
    exact ⟨first, ⟨hid, before, after, hsplit, hbefore⟩, hlatest⟩

/-- What was registered first has a latest descriptor, so only unknown identifiers have none. -/
theorem Tabulates.lookup_nil_eq_none_iff (h : r.Tabulates history) :
    r.lookup [] identifier = none ↔ ∀ e ∈ history, e.identifier ≠ identifier := by
  rw [h.lookup_nil_eq]
  cases hfirst : history.find? fun e => decide (e.identifier = identifier) with
  | none => simpa using hfirst
  | some first =>
    have hmem := List.mem_of_find?_eq_some hfirst
    have hown := List.find?_some hfirst
    have hid : first.identifier = identifier := of_decide_eq_true hown
    have hregistered : Registered history identifier first.sourceType :=
      ⟨first, hmem, congrArg (·, first.sourceType) hid⟩
    rw [Option.bind_some, latest?_eq_none_iff]
    exact ⟨fun hnone => absurd hregistered hnone, fun hunknown => absurd hid (hunknown first hmem)⟩

end Lookup

theorem Tabulates.map_key_descriptors (h : r.Tabulates history) :
    r.descriptors.map ShaderDescriptor.key =
      (identifiers history).flatMap fun identifier =>
        (sourceTypes history identifier).map (identifier, ·) := by
  rw [h.descriptors_eq, List.map_flatMap]
  simp only [map_key_newest]

theorem Tabulates.nodup_keys (h : r.Tabulates history) :
    (r.descriptors.map ShaderDescriptor.key).Nodup := by
  rw [h.map_key_descriptors, List.nodup_flatMap]
  constructor
  · intro identifier _
    exact (nodup_eraseDups _).map fun _ _ heq => congrArg Prod.snd heq
  · refine (nodup_eraseDups (history.map (·.identifier))).imp ?_
    intro i j hne
    refine List.disjoint_left.2 fun key hi hj => hne ?_
    obtain ⟨_, -, rfl⟩ := List.mem_map.1 hi
    obtain ⟨_, -, heq⟩ := List.mem_map.1 hj
    exact (congrArg Prod.fst heq).symm

theorem Tabulates.mem_keys_iff (h : r.Tabulates history) {key : String × String} :
    key ∈ r.descriptors.map ShaderDescriptor.key ↔ key ∈ history.map ShaderDescriptor.key := by
  obtain ⟨identifier, sourceType⟩ := key
  rw [h.map_key_descriptors]
  simp only [List.mem_flatMap, List.mem_map, Prod.mk.injEq]
  constructor
  · rintro ⟨_, -, _, ht, rfl, rfl⟩
    exact mem_sourceTypes.1 ht
  · intro hregistered
    obtain ⟨d, hd, hkey⟩ := hregistered
    exact ⟨identifier, mem_identifiers.2 ⟨d, hd, congrArg Prod.fst hkey⟩, sourceType,
      mem_sourceTypes.2 ⟨d, hd, hkey⟩, rfl, rfl⟩

theorem Tabulates.latest (h : r.Tabulates history) (hd : d ∈ r.descriptors) :
    Latest history d.identifier d.sourceType d := by
  rw [h.descriptors_eq, List.mem_flatMap] at hd
  obtain ⟨identifier, -, hd⟩ := hd
  obtain ⟨t, -, hlatest⟩ := List.mem_filterMap.1 hd
  have hd := latest?_eq_some_iff.1 hlatest
  obtain ⟨rfl, rfl⟩ := Prod.mk.inj hd.key_eq
  exact hd

theorem Tabulates.size_eq (h : r.Tabulates history) :
    r.size = (history.map ShaderDescriptor.key).toFinset.card := by
  have hsame : (history.map ShaderDescriptor.key).toFinset =
      (r.descriptors.map ShaderDescriptor.key).toFinset := by
    ext key
    rw [List.mem_toFinset, List.mem_toFinset, h.mem_keys_iff]
  rw [hsame, List.toFinset_card_of_nodup h.nodup_keys, List.length_map]
  rfl

/-- What a registry answers is what the history says: which descriptor a lookup returns, and which
descriptors are listed in which order. -/
structure Reflects (r : ShaderRegistry) (history : List ShaderDescriptor) : Prop where
  /-- Of the acceptable source types, the first one that was ever registered decides. -/
  preferred : ∀ preference identifier d, preference ≠ [] →
    (r.lookup preference identifier = some d ↔
      ∃ before chosen after, preference = before ++ chosen :: after ∧
        (∀ other ∈ before, ¬ Registered history identifier other) ∧
        Latest history identifier chosen d)
  unmatched : ∀ preference identifier, preference ≠ [] →
    (r.lookup preference identifier = none ↔
      ∀ t ∈ preference, ¬ Registered history identifier t)
  /-- Where none is named, the source type that was registered first decides. -/
  unrestricted : ∀ identifier d, r.lookup [] identifier = some d ↔
    ∃ before first after, history = before ++ first :: after ∧
      (∀ e ∈ before, e.identifier ≠ identifier) ∧ first.identifier = identifier ∧
      Latest history identifier first.sourceType d
  unknown : ∀ identifier, r.lookup [] identifier = none ↔
    ∀ e ∈ history, e.identifier ≠ identifier
  latest : ∀ d ∈ r.descriptors, Latest history d.identifier d.sourceType d
  /-- By identifier, and for each identifier by source type, in the order of first registrations. -/
  order : r.descriptors.map ShaderDescriptor.key =
    (identifiers history).flatMap fun identifier =>
      (sourceTypes history identifier).map (identifier, ·)
  nodup : (r.descriptors.map ShaderDescriptor.key).Nodup
  complete : ∀ key, key ∈ r.descriptors.map ShaderDescriptor.key ↔
    key ∈ history.map ShaderDescriptor.key
  size : r.size = (history.map ShaderDescriptor.key).toFinset.card

/-- After any history of registrations, a registry answers what the history says. -/
theorem reflects_ofList (history : List ShaderDescriptor) : (ofList history).Reflects history := by
  have h := tabulates_ofList history
  constructor
  · intro preference identifier d hne
    exact h.lookup_eq_some_iff hne
  · intro preference identifier hne
    exact h.lookup_eq_none_iff hne
  · exact fun identifier d => h.lookup_nil_eq_some_iff
  · exact fun identifier => h.lookup_nil_eq_none_iff
  · exact fun d => h.latest
  · exact h.map_key_descriptors
  · exact h.nodup_keys
  · exact fun key => h.mem_keys_iff
  · exact h.size_eq

/-- A descriptor that is registered again keeps its place. -/
example :
    ((ofList [.ofIdentifier "A" "OSL" "pattern", .ofIdentifier "B" "OSL" "pattern",
      .ofIdentifier "A" "RmanCpp" "pattern", .ofIdentifier "A" "OSL" "bxdf"]).descriptors.map
        fun d => (d.identifier, d.sourceType, d.context)) =
      [("A", "OSL", "bxdf"), ("A", "RmanCpp", "pattern"), ("B", "OSL", "pattern")] := by
  decide

end ShaderRegistry

end ShadingGraph
