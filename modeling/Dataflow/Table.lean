namespace Dataflow

structure Table (α : Type) where
  entries : List (String × α)

namespace Table

def empty : Table α := ⟨[]⟩

def keys (table : Table α) : List String := table.entries.map (·.1)

def items (table : Table α) : List α := table.entries.map (·.2)

def get? (table : Table α) (key : String) : Option α := (table.entries.find? (·.1 == key)).map (·.2)

def contains (table : Table α) (key : String) : Bool := (table.get? key).isSome

def modify (table : Table α) (key : String) (change : α → α) : Table α :=
  ⟨table.entries.map fun entry => if entry.1 = key then (entry.1, change entry.2) else entry⟩

-- Takes the place of the item that the key already has, if there is one.
def insert (table : Table α) (key : String) (item : α) : Table α :=
  if table.contains key then table.modify key fun _ => item else ⟨table.entries ++ [(key, item)]⟩

def erase (table : Table α) (key : String) : Table α := ⟨table.entries.filter (·.1 != key)⟩

-- Tables of lists: a key that was never entered has the empty list.
def list (table : Table (List β)) (key : String) : List β := (table.get? key).getD []

def push (table : Table (List β)) (key : String) (item : β) : Table (List β) :=
  table.insert key (table.list key ++ [item])

def drop [BEq β] (table : Table (List β)) (key : String) (item : β) : Table (List β) :=
  table.modify key fun items => items.filter (· != item)

-- How many items the lists of some of the keys hold together.
def count (table : Table (List β)) (counted : String → Bool) : Nat :=
  (table.entries.filter fun entry => counted entry.1).foldr (fun entry rest => entry.2.length + rest) 0

theorem get?_isSome (table : Table α) (key : String) : (table.get? key).isSome ↔ key ∈ table.keys := by
  simp [get?, keys]

theorem contains_iff (table : Table α) (key : String) : table.contains key ↔ key ∈ table.keys :=
  table.get?_isSome key

theorem get?_eq_none (table : Table α) (key : String) : table.get? key = none ↔ key ∉ table.keys := by
  rw [← get?_isSome, Option.not_isSome_iff_eq_none]

theorem mem_of_get? {table : Table α} (found : table.get? key = some item) :
    (key, item) ∈ table.entries := by
  obtain ⟨entry, first, rfl⟩ := Option.map_eq_some_iff.mp found
  have named : entry.1 = key := by simpa using List.find?_some first
  exact named ▸ List.mem_of_find?_eq_some first

theorem get?_modify (table : Table α) (key other : String) (change : α → α) :
    (table.modify key change).get? other =
      if other = key then (table.get? key).map change else table.get? other := by
  obtain ⟨entries⟩ := table
  simp only [get?, modify]
  induction entries with
  | nil => simp
  | cons entry rest ih =>
    by_cases here : entry.1 = key <;> by_cases there : entry.1 = other <;> by_cases same : other = key <;>
      simp_all

theorem keys_modify (table : Table α) (key : String) (change : α → α) :
    (table.modify key change).keys = table.keys := by
  simp only [keys, modify, List.map_map]
  refine List.map_congr_left fun entry _ => ?_
  by_cases same : entry.1 = key <;> simp [same]

theorem get?_insert (table : Table α) (key other : String) (item : α) :
    (table.insert key item).get? other = if other = key then some item else table.get? other := by
  unfold insert
  by_cases there : table.contains key
  · rw [if_pos there, get?_modify]
    obtain ⟨old, found⟩ := Option.isSome_iff_exists.mp there
    simp [found]
  · rw [if_neg there]
    have absent : table.get? key = none := by simpa [contains] using there
    by_cases same : other = key
    · subst same
      have unfound := Option.map_eq_none_iff.mp absent
      simp [get?, List.find?_append, unfound]
    · have different : ¬key = other := fun equal => same equal.symm
      simp [get?, List.find?_append, same, different]

theorem entries_insert {table : Table α} (fresh : key ∉ table.keys) (item : α) :
    (table.insert key item).entries = table.entries ++ [(key, item)] := by
  rw [insert, if_neg fun there => fresh ((table.contains_iff key).mp there)]

theorem keys_insert {table : Table α} (fresh : key ∉ table.keys) (item : α) :
    (table.insert key item).keys = table.keys ++ [key] := by
  simp [keys, entries_insert fresh]

theorem items_insert {table : Table α} (fresh : key ∉ table.keys) (item : α) :
    (table.insert key item).items = table.items ++ [item] := by
  simp [items, entries_insert fresh]

theorem get?_erase (table : Table α) (key other : String) :
    (table.erase key).get? other = if other = key then none else table.get? other := by
  by_cases same : other = key
  · subst same
    simp [get?, erase]
  · simp only [get?, erase, List.find?_filter, if_neg same]
    congr 2
    funext entry
    by_cases named : entry.1 = other <;> simp_all

theorem keys_erase (table : Table α) (key : String) :
    (table.erase key).keys = table.keys.filter (· != key) := by
  simp [keys, erase, List.filter_map, Function.comp_def]

theorem list_push (table : Table (List β)) (key other : String) (item : β) :
    (table.push key item).list other = table.list other ++ (if other = key then [item] else []) := by
  by_cases same : other = key <;> simp [push, list, get?_insert, same]

theorem list_drop [BEq β] (table : Table (List β)) (key other : String) (item : β) :
    (table.drop key item).list other =
      if other = key then (table.list key).filter (· != item) else table.list other := by
  by_cases same : other = key
  · cases found : table.get? key <;> simp [drop, list, get?_modify, same, found]
  · simp [drop, list, get?_modify, same]

theorem list_erase (table : Table (List β)) (key other : String) :
    (table.erase key).list other = if other = key then [] else table.list other := by
  by_cases same : other = key <;> simp [list, get?_erase, same]

theorem count_mono (table : Table (List β)) (fewer counted : String → Bool)
    (covered : ∀ key, fewer key → counted key) : table.count fewer ≤ table.count counted := by
  obtain ⟨entries⟩ := table
  simp only [count]
  induction entries with
  | nil => simp
  | cons entry rest ih =>
    by_cases left : fewer entry.1
    · simpa [left, covered entry.1 left] using ih
    · by_cases kept : counted entry.1
      · simp only [List.filter_cons, left, kept, if_true, Bool.false_eq_true, if_false, List.foldr_cons]
        omega
      · simpa [left, kept] using ih

theorem count_without (table : Table (List β)) (counted : String → Bool) (key : String)
    (there : counted key) :
    table.count (fun other => counted other && other != key) + (table.list key).length ≤ table.count counted := by
  obtain ⟨entries⟩ := table
  simp only [count, list, get?]
  induction entries with
  | nil => simp
  | cons entry rest ih =>
    by_cases same : entry.1 = key
    · have others := count_mono ⟨rest⟩ (fun other => counted other && other != key) counted
        fun other both => (Bool.and_eq_true _ _ ▸ both).1
      simp only [count] at others
      simp_all
      omega
    · by_cases kept : counted entry.1
      · have apart : (entry.1 != key) = true := bne_iff_ne.mpr same
        simp only [List.filter_cons, List.find?_cons, kept, apart, beq_eq_false_iff_ne.mpr same, Bool.and_self,
          if_true, List.foldr_cons]
        omega
      · simpa [kept, same] using ih

end Table
end Dataflow
