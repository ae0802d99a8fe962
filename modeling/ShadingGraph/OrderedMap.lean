/-!
# Maps in insertion order

A finite map that remembers the order in which its keys were first inserted. Writing to a key
that is already present replaces the value where it stands; removing a key closes the gap. Every
table of the library (nodes, parameters, inputs, terminals, registries, committed networks) is such
a map, because its order shows in every listing.

## Main definitions

- `OrderedMap` — the entries, with the proof that no key is repeated
- `OrderedMap.find?`, `OrderedMap.insert`, `OrderedMap.modify`, `OrderedMap.erase`
- `OrderedMap.agrees` — equality of maps as maps: the same keys with equal values, in any order
-/

namespace ShadingGraph

/-- A finite map whose entries stand in the order of the first insertion of their keys. -/
structure OrderedMap (κ : Type) (α : Type) where
  /-- The entries in order. -/
  entries : List (κ × α)
  /-- No key stands twice. -/
  nodup : (entries.map Prod.fst).Nodup

namespace OrderedMap

variable {κ α β : Type}

@[ext]
theorem ext {m n : OrderedMap κ α} (h : m.entries = n.entries) : m = n := by
  cases m; cases n; cases h; rfl

instance [DecidableEq κ] [DecidableEq α] : DecidableEq (OrderedMap κ α) := fun m n =>
  decidable_of_iff (m.entries = n.entries) ⟨ext, fun h => h ▸ rfl⟩

/-- The map without entries. -/
def empty : OrderedMap κ α := ⟨[], List.nodup_nil⟩

instance : EmptyCollection (OrderedMap κ α) := ⟨empty⟩
instance : Inhabited (OrderedMap κ α) := ⟨empty⟩

/-- The keys in order. -/
def keys (m : OrderedMap κ α) : List κ := m.entries.map Prod.fst

/-- The values in the order of their keys. -/
def values (m : OrderedMap κ α) : List α := m.entries.map Prod.snd

/-- The number of entries. -/
def size (m : OrderedMap κ α) : Nat := m.entries.length

/-- Whether there is no entry. -/
def isEmpty (m : OrderedMap κ α) : Bool := m.entries.isEmpty

/-- Applies a function to every value where it stands, given its key. -/
def mapValues (f : κ → α → β) (m : OrderedMap κ α) : OrderedMap κ β where
  entries := m.entries.map fun e => (e.1, f e.1 e.2)
  nodup := by simpa [List.map_map, Function.comp_def] using m.nodup

section Keyed

variable [DecidableEq κ]

/-- The value under the first entry of a list that has the key. -/
def lookup (k : κ) : List (κ × α) → Option α
  | [] => none
  | (k', v) :: rest => if k' = k then some v else lookup k rest

/-- The value under a key. -/
def find? (m : OrderedMap κ α) (k : κ) : Option α := lookup k m.entries

/-- Whether a key has an entry. -/
def contains (m : OrderedMap κ α) (k : κ) : Bool := decide (k ∈ m.keys)

/-- Applies a function to the value under a key; nothing happens where the key is absent. -/
def modify (m : OrderedMap κ α) (k : κ) (f : α → α) : OrderedMap κ α :=
  m.mapValues fun k' v => if k' = k then f v else v

/-- Writes a value: in place where the key is present, at the end otherwise. -/
def insert (m : OrderedMap κ α) (k : κ) (v : α) : OrderedMap κ α :=
  if h : k ∈ m.keys then m.modify k fun _ => v
  else
    { entries := m.entries ++ [(k, v)]
      nodup := by
        simp only [List.map_append, List.map_cons, List.map_nil]
        refine List.nodup_append.2 ⟨m.nodup, by simp, ?_⟩
        intro a ha b hb hab
        exact h (by simpa [keys, List.mem_singleton.1 hb ▸ hab] using ha) }

/-- Applies a function to the value under a key, starting from a default where the key is absent;
an absent key is added at the end. -/
def alter (m : OrderedMap κ α) (k : κ) (default : α) (f : α → α) : OrderedMap κ α :=
  m.insert k (f ((m.find? k).getD default))

/-- Removes a key; the entries behind it move up. -/
def erase (m : OrderedMap κ α) (k : κ) : OrderedMap κ α where
  entries := m.entries.filter fun e => decide (e.1 ≠ k)
  nodup := m.nodup.sublist (List.filter_sublist.map Prod.fst)

/-- Inserts a list of entries from left to right. -/
def insertAll (m : OrderedMap κ α) (entries : List (κ × α)) : OrderedMap κ α :=
  entries.foldl (fun acc e => acc.insert e.1 e.2) m

/-- The map of a list of entries, inserted from left to right. -/
def ofList (entries : List (κ × α)) : OrderedMap κ α := empty.insertAll entries

/-- Equality as maps: as many keys, and under each key equal values. The order does not count. -/
def agrees (same : α → α → Bool) (m n : OrderedMap κ α) : Bool :=
  m.size == n.size && m.entries.all fun e =>
    match n.find? e.1 with
    | some v => same e.2 v
    | none => false

end Keyed

/-! ## What each operation does to the entries -/

@[simp] theorem entries_empty : (empty : OrderedMap κ α).entries = [] := rfl

@[simp] theorem keys_empty : (empty : OrderedMap κ α).keys = [] := rfl

@[simp] theorem entries_mapValues (f : κ → α → β) (m : OrderedMap κ α) :
    (m.mapValues f).entries = m.entries.map fun e => (e.1, f e.1 e.2) := rfl

@[simp] theorem keys_mapValues (f : κ → α → β) (m : OrderedMap κ α) :
    (m.mapValues f).keys = m.keys := by
  simp [keys, Function.comp_def]

variable [DecidableEq κ]

@[simp] theorem keys_modify (m : OrderedMap κ α) (k : κ) (f : α → α) :
    (m.modify k f).keys = m.keys := keys_mapValues _ _

theorem entries_insert_of_not_mem {m : OrderedMap κ α} {k : κ} (h : k ∉ m.keys) (v : α) :
    (m.insert k v).entries = m.entries ++ [(k, v)] := by
  simp [insert, h]

theorem insert_of_mem {m : OrderedMap κ α} {k : κ} (h : k ∈ m.keys) (v : α) :
    m.insert k v = m.modify k fun _ => v := by
  simp [insert, h]

/-- A written key keeps its place, a new one comes last. -/
theorem keys_insert (m : OrderedMap κ α) (k : κ) (v : α) :
    (m.insert k v).keys = if k ∈ m.keys then m.keys else m.keys ++ [k] := by
  by_cases h : k ∈ m.keys
  · simp [insert_of_mem h, h]
  · rw [if_neg h, keys, entries_insert_of_not_mem h, List.map_append]
    rfl

@[simp] theorem entries_erase (m : OrderedMap κ α) (k : κ) :
    (m.erase k).entries = m.entries.filter fun e => decide (e.1 ≠ k) := rfl

theorem keys_erase (m : OrderedMap κ α) (k : κ) :
    (m.erase k).keys = m.keys.filter fun k' => decide (k' ≠ k) := by
  simp [keys, List.filter_map, Function.comp_def]

/-! ## What a lookup sees -/

theorem lookup_map_snd (k : κ) (f : κ → α → β) (entries : List (κ × α)) :
    lookup k (entries.map fun e => (e.1, f e.1 e.2)) = (lookup k entries).map (f k) := by
  induction entries with
  | nil => rfl
  | cons e rest ih =>
    obtain ⟨k', v⟩ := e
    by_cases h : k' = k
    · subst h; simp [lookup]
    · simpa [lookup, h] using ih

theorem lookup_append (k : κ) (front back : List (κ × α)) :
    lookup k (front ++ back) = (lookup k front).or (lookup k back) := by
  induction front with
  | nil => simp [lookup]
  | cons e rest ih =>
    obtain ⟨k', v⟩ := e
    by_cases h : k' = k
    · simp [lookup, h]
    · simpa [lookup, h] using ih

theorem lookup_eq_none_iff {k : κ} {entries : List (κ × α)} :
    lookup k entries = none ↔ k ∉ entries.map Prod.fst := by
  induction entries with
  | nil => simp [lookup]
  | cons e rest ih =>
    obtain ⟨k', v⟩ := e
    by_cases h : k' = k
    · simp [lookup, h]
    · simp [lookup, h, ih, Ne.symm h]

theorem find?_eq_none_iff {m : OrderedMap κ α} {k : κ} : m.find? k = none ↔ k ∉ m.keys :=
  lookup_eq_none_iff

@[simp] theorem find?_empty (k : κ) : (empty : OrderedMap κ α).find? k = none := rfl

theorem find?_mapValues (m : OrderedMap κ α) (f : κ → α → β) (k : κ) :
    (m.mapValues f).find? k = (m.find? k).map (f k) := lookup_map_snd k f m.entries

/-- A written value is read back, and every other key reads as before. -/
theorem find?_insert (m : OrderedMap κ α) (k k' : κ) (v : α) :
    (m.insert k v).find? k' = if k' = k then some v else m.find? k' := by
  by_cases hk : k ∈ m.keys
  · rw [insert_of_mem hk, modify, find?_mapValues]
    by_cases h : k' = k
    · subst h
      cases hv : m.find? k' with
      | none => exact absurd hk (find?_eq_none_iff.1 hv)
      | some w => simp
    · simp [h]
  · rw [find?, entries_insert_of_not_mem hk, lookup_append]
    by_cases h : k' = k
    · subst h
      rw [lookup_eq_none_iff.2 (by simpa [keys] using hk)]
      simp [lookup]
    · simp [lookup, h, Ne.symm h, find?]

theorem find?_modify (m : OrderedMap κ α) (k k' : κ) (f : α → α) :
    (m.modify k f).find? k' = (m.find? k').map fun v => if k' = k then f v else v :=
  find?_mapValues m _ k'

theorem lookup_filter_ne (k k' : κ) (entries : List (κ × α)) :
    lookup k' (entries.filter fun e => decide (e.1 ≠ k)) =
      if k' = k then none else lookup k' entries := by
  induction entries with
  | nil => simp [lookup]
  | cons e rest ih =>
    obtain ⟨k'', v⟩ := e
    by_cases hk : k'' = k
    · subst hk
      by_cases h : k'' = k'
      · subst h
        simpa using ih
      · simpa [lookup, h] using ih
    · by_cases h : k'' = k'
      · subst h
        simp [lookup, hk]
      · simpa [lookup, hk, h] using ih

/-- A removed key is gone, and every other key reads as before. -/
theorem find?_erase (m : OrderedMap κ α) (k k' : κ) :
    (m.erase k).find? k' = if k' = k then none else m.find? k' :=
  lookup_filter_ne k k' m.entries

end OrderedMap

end ShadingGraph
