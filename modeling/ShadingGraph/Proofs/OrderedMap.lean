import Mathlib.Algebra.GroupWithZero.Nat
import Mathlib.Data.List.Induction
import Mathlib.Data.List.Nodup
import ShadingGraph.OrderedMap

/-!
# Lookups in lists of entries, lists of writes to a map, and visits to its keys

## Main results

- `OrderedMap.lookup_eq_some_iff`, `OrderedMap.lookup_of_mem` — what a lookup in a list of entries
  finds
- `OrderedMap.find?_eq_some_iff_mem`, `OrderedMap.find?_eq_of_perm` — a map finds its entries, in
  whatever order they stand
- `OrderedMap.entries_alter_of_mem`, `OrderedMap.entries_alter_of_not_mem` — a value is changed
  where it stands, and a new key comes last
- `OrderedMap.modify_of_not_mem`, `OrderedMap.erase_of_not_mem` — nothing happens to a map without
  the key
- `OrderedMap.ofList_entries` — a map is made up of its entries
- `OrderedMap.agrees_self` — which maps equal themselves
- `OrderedMap.find?_insertAll`, `OrderedMap.find?_insertAll_eq_some_iff` — what is read after a list
  of writes
- `OrderedMap.find?_insertAll_filterMap` — the same where only some elements of a list are written
- `OrderedMap.keys_ofList_split` — the keys stand in the order of their first writes
- `OrderedMap.foldl_visit` — visits to all keys rewrite every value as it was at the start
-/

namespace ShadingGraph

namespace OrderedMap

variable {κ α : Type} [DecidableEq κ]

/-- A lookup finds the first entry with the key. -/
theorem lookup_eq_some_iff {k : κ} {v : α} {entries : List (κ × α)} :
    lookup k entries = some v ↔
      ∃ front back, entries = front ++ (k, v) :: back ∧ k ∉ front.map Prod.fst := by
  induction entries with
  | nil => simp [lookup]
  | cons e rest ih =>
    obtain ⟨k', v'⟩ := e
    by_cases hk : k' = k
    · subst hk
      rw [lookup, if_pos rfl, Option.some.injEq]
      constructor
      · rintro rfl
        exact ⟨[], rest, rfl, List.not_mem_nil⟩
      · rintro ⟨front, back, hsplit, hnone⟩
        cases front with
        | nil =>
          cases hsplit
          rfl
        | cons e front =>
          cases hsplit
          exact absurd List.mem_cons_self hnone
    · rw [lookup, if_neg hk, ih]
      constructor
      · rintro ⟨front, back, rfl, hnone⟩
        exact ⟨(k', v') :: front, back, rfl, List.not_mem_cons_of_ne_of_not_mem (Ne.symm hk) hnone⟩
      · rintro ⟨front, back, hsplit, hnone⟩
        cases front with
        | nil =>
          cases hsplit
          exact absurd rfl hk
        | cons e front =>
          cases hsplit
          exact ⟨front, back, rfl, fun h => hnone (List.mem_cons_of_mem _ h)⟩

theorem lookup_of_mem {entries : List (κ × α)} (hnodup : (entries.map Prod.fst).Nodup) {k : κ}
    {v : α} (h : (k, v) ∈ entries) : lookup k entries = some v := by
  obtain ⟨front, back, rfl⟩ := List.append_of_mem h
  rw [List.map_append, List.map_cons, List.nodup_middle, List.nodup_cons, List.mem_append] at hnodup
  exact lookup_eq_some_iff.2 ⟨front, back, rfl, fun hfront => hnodup.1 (Or.inl hfront)⟩

theorem find?_of_mem {m : OrderedMap κ α} {k : κ} {v : α} (h : (k, v) ∈ m.entries) :
    m.find? k = some v :=
  lookup_of_mem m.nodup h

theorem find?_eq_some_iff_mem {m : OrderedMap κ α} {k : κ} {v : α} :
    m.find? k = some v ↔ (k, v) ∈ m.entries := by
  constructor
  · intro h
    obtain ⟨front, back, hsplit, -⟩ := lookup_eq_some_iff.1 h
    simp [hsplit]
  · exact find?_of_mem

/-- The order of the entries does not matter to a lookup. -/
theorem find?_eq_of_perm {m n : OrderedMap κ α} (h : m.entries.Perm n.entries) (k : κ) :
    m.find? k = n.find? k := by
  ext v
  rw [find?_eq_some_iff_mem, find?_eq_some_iff_mem, h.mem_iff]

theorem lookup_filter (p : κ → Bool) (k : κ) (entries : List (κ × α)) :
    lookup k (entries.filter fun e => p e.1) = if p k then lookup k entries else none := by
  induction entries with
  | nil => simp [lookup]
  | cons e rest ih =>
    obtain ⟨k', v⟩ := e
    by_cases hk : k' = k
    · subst hk
      cases hp : p k' <;> simp [hp, lookup, ih]
    · cases hp : p k' <;> simp [hp, lookup, hk, ih]

theorem lookup_map_keys (f : κ → α) (k : κ) (keys : List κ) :
    lookup k (keys.map fun k => (k, f k)) = if k ∈ keys then some (f k) else none := by
  induction keys with
  | nil => simp [lookup]
  | cons k' rest ih =>
    by_cases hk : k' = k
    · subst hk
      simp [lookup]
    · simp [lookup, hk, Ne.symm hk, ih]

theorem entries_alter_of_mem {m : OrderedMap κ α} {k : κ} (h : k ∈ m.keys) (default : α)
    (f : α → α) :
    (m.alter k default f).entries =
      m.entries.map fun e => (e.1, if e.1 = k then f e.2 else e.2) := by
  rw [alter, insert_of_mem h, modify, entries_mapValues]
  refine List.map_congr_left fun e he => ?_
  by_cases hk : e.1 = k
  · have hfind : m.find? k = some e.2 := find?_of_mem (hk ▸ he)
    rw [if_pos hk, if_pos hk, hfind, Option.getD_some]
  · rw [if_neg hk, if_neg hk]

theorem entries_alter_of_not_mem {m : OrderedMap κ α} {k : κ} (h : k ∉ m.keys) (default : α)
    (f : α → α) : (m.alter k default f).entries = m.entries ++ [(k, f default)] := by
  rw [alter, entries_insert_of_not_mem h, find?_eq_none_iff.2 h, Option.getD_none]

theorem modify_of_not_mem {m : OrderedMap κ α} {k : κ} (h : k ∉ m.keys) (f : α → α) :
    m.modify k f = m := by
  ext1
  rw [modify, entries_mapValues]
  refine (List.map_congr_left fun e he => ?_).trans (List.map_id _)
  have hne : e.1 ≠ k := fun heq => h (heq ▸ List.mem_map_of_mem he)
  rw [if_neg hne]
  rfl

/-- A value is changed where it stands. -/
theorem entries_modify_split {m : OrderedMap κ α} {front back : List (κ × α)} {k : κ} {v : α}
    (h : m.entries = front ++ (k, v) :: back) (g : α → α) :
    (m.modify k g).entries = front ++ (k, g v) :: back := by
  have hnodup := m.nodup
  rw [h, List.map_append, List.map_cons, List.nodup_middle, List.nodup_cons, List.mem_append,
    not_or] at hnodup
  have hother : ∀ es : List (κ × α), k ∉ es.map Prod.fst →
      es.map (fun e => (e.1, if e.1 = k then g e.2 else e.2)) = es := by
    intro es hes
    refine (List.map_congr_left fun e he => ?_).trans (List.map_id _)
    have hne : e.1 ≠ k := fun heq => hes (heq ▸ List.mem_map_of_mem he)
    rw [if_neg hne]
    rfl
  rw [modify, entries_mapValues, h, List.map_append, List.map_cons, hother front hnodup.1.1,
    hother back hnodup.1.2, if_pos rfl]

theorem modify_of_find? {m : OrderedMap κ α} {k : κ} {v : α} (h : m.find? k = some v) :
    (m.modify k fun _ => v) = m := by
  obtain ⟨front, back, hsplit⟩ := List.append_of_mem (find?_eq_some_iff_mem.1 h)
  exact ext ((entries_modify_split hsplit fun _ => v).trans hsplit.symm)

theorem erase_of_not_mem {m : OrderedMap κ α} {k : κ} (h : k ∉ m.keys) : m.erase k = m := by
  ext1
  rw [entries_erase, List.filter_eq_self]
  intro e he
  exact decide_eq_true fun heq => h (heq ▸ List.mem_map_of_mem he)

/-- Entries with new keys, no key twice, are written behind those that are there. -/
theorem entries_insertAll {m : OrderedMap κ α} {entries : List (κ × α)}
    (h : (m.keys ++ entries.map Prod.fst).Nodup) :
    (m.insertAll entries).entries = m.entries ++ entries := by
  induction entries generalizing m with
  | nil => exact (List.append_nil _).symm
  | cons e rest ih =>
    rw [List.map_cons] at h
    have hnew : e.1 ∉ m.keys := fun hmem =>
      (List.nodup_append.1 h).2.2 e.1 hmem e.1 List.mem_cons_self rfl
    have hkeys : (m.insert e.1 e.2).keys = m.keys ++ [e.1] := by rw [keys_insert, if_neg hnew]
    have hrest : ((m.insert e.1 e.2).keys ++ rest.map Prod.fst).Nodup := by
      rw [hkeys, List.append_assoc]
      exact h
    calc ((m.insert e.1 e.2).insertAll rest).entries
        = (m.insert e.1 e.2).entries ++ rest := ih hrest
      _ = m.entries ++ e :: rest := by
          rw [entries_insert_of_not_mem hnew, List.append_assoc]
          rfl

/-- The entries of a map make up the map, in their order. -/
theorem ofList_entries (m : OrderedMap κ α) : ofList m.entries = m := by
  apply ext
  exact entries_insertAll m.nodup

/-- A map equals itself if its values equal themselves. -/
theorem agrees_self (same : α → α → Bool) (m : OrderedMap κ α) :
    m.agrees same m = m.values.all fun v => same v v := by
  rw [agrees, beq_self_eq_true, Bool.true_and, values, List.all_map, Bool.eq_iff_iff,
    List.all_eq_true, List.all_eq_true]
  refine forall₂_congr fun e he => ?_
  rw [find?_of_mem he]
  rfl

/-- After a list of writes, a key reads as its last write, or as before if there is none. -/
theorem find?_insertAll (m : OrderedMap κ α) (entries : List (κ × α)) (k : κ) :
    (m.insertAll entries).find? k = (lookup k entries.reverse).or (m.find? k) := by
  induction entries generalizing m with
  | nil => rfl
  | cons e rest ih =>
    obtain ⟨k', v'⟩ := e
    have hfirst : (m.insert k' v').find? k = (lookup k [(k', v')]).or (m.find? k) := by
      rw [find?_insert]
      by_cases hk : k' = k
      · simp [lookup, hk]
      · simp [lookup, hk, Ne.symm hk]
    rw [List.reverse_cons, lookup_append, Option.or_assoc, ← hfirst]
    exact ih _

/-- A value that is read after a list of writes is that of the last write to its key, unless it was
there before and no write has its key. -/
theorem find?_insertAll_eq_some_iff {m : OrderedMap κ α} {entries : List (κ × α)} {k : κ} {v : α} :
    (m.insertAll entries).find? k = some v ↔
      (∃ front back, entries = front ++ (k, v) :: back ∧ k ∉ back.map Prod.fst) ∨
        (k ∉ entries.map Prod.fst ∧ m.find? k = some v) := by
  rw [find?_insertAll, Option.or_eq_some_iff, lookup_eq_some_iff, lookup_eq_none_iff]
  simp only [List.map_reverse, List.mem_reverse]
  refine or_congr ⟨?_, ?_⟩ Iff.rfl
  · rintro ⟨front, back, hsplit, hnone⟩
    refine ⟨back.reverse, front.reverse, ?_, by simpa using hnone⟩
    rw [List.reverse_eq_iff.1 hsplit]
    simp
  · rintro ⟨front, back, rfl, hnone⟩
    exact ⟨back.reverse, front.reverse, by simp, by simpa using hnone⟩

theorem insertAll_append (m : OrderedMap κ α) (entries more : List (κ × α)) :
    m.insertAll (entries ++ more) = (m.insertAll entries).insertAll more :=
  List.foldl_append

theorem mem_keys_insertAll {m : OrderedMap κ α} {entries : List (κ × α)} {k : κ} :
    k ∈ (m.insertAll entries).keys ↔ k ∈ m.keys ∨ k ∈ entries.map Prod.fst := by
  rw [← not_iff_not, ← find?_eq_none_iff, find?_insertAll, Option.or_eq_none_iff,
    lookup_eq_none_iff, find?_eq_none_iff, not_or, List.map_reverse, List.mem_reverse]
  exact and_comm

/-- In front of a key stand the keys that are written before its first write. -/
theorem keys_ofList_split {entries : List (κ × α)} {front back : List κ} {k : κ}
    (h : (ofList entries).keys = front ++ k :: back) :
    ∃ before v after, entries = before ++ (k, v) :: after ∧
      ∀ k', k' ∈ front ↔ k' ∈ before.map Prod.fst := by
  induction entries using List.reverseRecOn generalizing back with
  | nil => cases front <;> cases h
  | append_singleton entries e ih =>
    have hlast : ofList (entries ++ [e]) = (ofList entries).insert e.1 e.2 :=
      insertAll_append empty entries [e]
    rw [hlast, keys_insert] at h
    have hearlier : ∀ back', (ofList entries).keys = front ++ k :: back' →
        ∃ before v after, entries ++ [e] = before ++ (k, v) :: after ∧
          ∀ k', k' ∈ front ↔ k' ∈ before.map Prod.fst := by
      intro back' hkeys
      obtain ⟨before, v, after, rfl, hfront⟩ := ih hkeys
      exact ⟨before, v, after ++ [e], by simp, hfront⟩
    split at h
    · exact hearlier back h
    · -- The key asked for is the new one, or stands in front of it.
      rcases List.eq_nil_or_concat back with rfl | ⟨back', last, rfl⟩
      · obtain ⟨rfl, hk⟩ := List.append_inj' h rfl
        refine ⟨entries, e.2, [], by rw [← List.singleton_inj.1 hk], fun k' => ?_⟩
        rw [ofList, mem_keys_insertAll, keys_empty, or_iff_right List.not_mem_nil]
      · rw [List.concat_eq_append, ← List.cons_append, ← List.append_assoc] at h
        exact hearlier back' (List.append_inj' h rfl).1

end OrderedMap

/-- A value is given by the last element of a list that gives one. -/
def LastOf {ι α : Type} (l : List ι) (gives : ι → α → Prop) (v : α) : Prop :=
  ∃ front a back, l = front ++ a :: back ∧ gives a v ∧ ∀ later ∈ back, ∀ w, ¬ gives later w

namespace OrderedMap

variable {κ α ι : Type} [DecidableEq κ]

omit [DecidableEq κ] in
theorem not_mem_keys_filterMap_iff {l : List ι} {f : ι → Option (κ × α)} {k : κ} :
    k ∉ (l.filterMap f).map Prod.fst ↔ ∀ a ∈ l, ∀ w, f a ≠ some (k, w) := by
  simp only [List.mem_map, List.mem_filterMap, Prod.exists, exists_and_right, exists_eq_right,
    not_exists, not_and]
  exact ⟨fun h a ha w => h w a ha, fun h w a ha => h a ha w⟩

/-- Where some elements of a list are written, a key reads as the last element that is written to
it, or as before if there is none. -/
theorem find?_insertAll_filterMap {m : OrderedMap κ α} {l : List ι} {f : ι → Option (κ × α)}
    {k : κ} {v : α} :
    (m.insertAll (l.filterMap f)).find? k = some v ↔
      LastOf l (fun a v => f a = some (k, v)) v ∨
        (∀ a ∈ l, ∀ w, f a ≠ some (k, w)) ∧ m.find? k = some v := by
  rw [find?_insertAll_eq_some_iff, not_mem_keys_filterMap_iff]
  refine or_congr_left ⟨?_, ?_⟩
  · rintro ⟨front, back, hsplit, hlast⟩
    obtain ⟨earlier, rest, rfl, -, hrest⟩ := List.filterMap_eq_append_iff.1 hsplit
    obtain ⟨skipped, a, later, rfl, -, ha, rfl⟩ := List.filterMap_eq_cons_iff.1 hrest
    exact ⟨earlier ++ skipped, a, later, by simp, ha, not_mem_keys_filterMap_iff.1 hlast⟩
  · rintro ⟨front, a, back, rfl, ha, hlast⟩
    exact ⟨front.filterMap f, back.filterMap f, by simp [ha], not_mem_keys_filterMap_iff.2 hlast⟩

theorem find?_ofList_filterMap_eq_none_iff {l : List ι} {f : ι → Option (κ × α)} {k : κ} :
    (ofList (l.filterMap f)).find? k = none ↔ ∀ a ∈ l, ∀ w, f a ≠ some (k, w) := by
  rw [find?_eq_none_iff, ofList, mem_keys_insertAll, keys_empty, or_iff_right List.not_mem_nil,
    not_mem_keys_filterMap_iff]

/-- The keys of such a map stand in the order of the first elements that are written to them. -/
theorem keys_ofList_filterMap_split {l : List ι} {f : ι → Option (κ × α)} {front back : List κ}
    {k : κ} (h : (ofList (l.filterMap f)).keys = front ++ k :: back) :
    ∃ before a after, l = before ++ a :: after ∧ (∃ v, f a = some (k, v)) ∧
      ∀ k', k' ∈ front ↔ ∃ b ∈ before, ∃ v, f b = some (k', v) := by
  obtain ⟨writes, v, rest, hsplit, hfront⟩ := keys_ofList_split h
  obtain ⟨earlier, tail, rfl, rfl, htail⟩ := List.filterMap_eq_append_iff.1 hsplit
  obtain ⟨skipped, a, later, rfl, hskipped, ha, -⟩ := List.filterMap_eq_cons_iff.1 htail
  refine ⟨earlier ++ skipped, a, later, by simp, ⟨v, ha⟩, fun k' => ?_⟩
  rw [hfront]
  constructor
  · intro hmem
    obtain ⟨⟨k', w⟩, hw, rfl⟩ := List.mem_map.1 hmem
    obtain ⟨b, hb, hwrite⟩ := List.mem_filterMap.1 hw
    exact ⟨b, List.mem_append_left _ hb, w, hwrite⟩
  · rintro ⟨b, hb, w, hwrite⟩
    -- What is skipped is written to no key.
    rcases List.mem_append.1 hb with hb | hb
    · exact List.mem_map.2 ⟨_, List.mem_filterMap.2 ⟨b, hb, hwrite⟩, rfl⟩
    · rw [hskipped b hb] at hwrite
      cases hwrite

/-! ## Visits to all keys -/

/-- Rewrites the value under a key where it stands, and adds to a count. -/
def visit (f : κ → α → α × Nat) (s : OrderedMap κ α × Nat) (k : κ) : OrderedMap κ α × Nat :=
  match s.1.find? k with
  | none => s
  | some v => (s.1.modify k fun _ => (f k v).1, s.2 + (f k v).2)

/-- Visiting the keys one after another rewrites all values as they were at the start. -/
theorem foldl_visit (f : κ → α → α × Nat) (m : OrderedMap κ α) (n : Nat) :
    m.keys.foldl (visit f) (m, n) =
      (m.mapValues fun k v => (f k v).1, n + (m.entries.map fun e => (f e.1 e.2).2).sum) := by
  -- The values in front have been rewritten, and those behind have not.
  have hrun : ∀ back front : List (κ × α), ∀ s : OrderedMap κ α × Nat, s.1.entries = front ++ back →
      ((back.map Prod.fst).foldl (visit f) s).1.entries =
          front ++ back.map (fun e => (e.1, (f e.1 e.2).1)) ∧
        ((back.map Prod.fst).foldl (visit f) s).2 =
          s.2 + (back.map fun e => (f e.1 e.2).2).sum := by
    intro back
    induction back with
    | nil => exact fun front s hs => ⟨hs, rfl⟩
    | cons e back ih =>
      intro front s hs
      have hfind : s.1.find? e.1 = some e.2 := find?_of_mem (by simp [hs])
      have hstep : visit f s e.1 =
          (s.1.modify e.1 fun _ => (f e.1 e.2).1, s.2 + (f e.1 e.2).2) := by
        rw [visit, hfind]
      have hentries : (visit f s e.1).1.entries =
          (front ++ [(e.1, (f e.1 e.2).1)]) ++ back := by
        rw [hstep, entries_modify_split hs, List.append_assoc]
        rfl
      obtain ⟨hmap, hcount⟩ := ih _ _ hentries
      rw [List.map_cons, List.foldl_cons, hmap, hcount, hstep]
      simp [Nat.add_assoc]
  obtain ⟨hmap, hcount⟩ := hrun m.entries [] (m, n) rfl
  exact Prod.ext (ext hmap) hcount

end OrderedMap

end ShadingGraph
