import Dataflow.Table
import Mathlib.Data.List.Nodup

namespace Dataflow.Table

structure Indexed (name : α → String) (table : Table α) : Prop where
  distinct : table.keys.Nodup
  named : ∀ entry ∈ table.entries, name entry.2 = entry.1

namespace Indexed

theorem empty (name : α → String) : (Table.empty : Table α).Indexed name :=
  ⟨List.nodup_nil, by simp [Table.empty]⟩

theorem keys_eq {table : Table α} (indexed : table.Indexed name) : table.keys = table.items.map name := by
  simp only [keys, items, List.map_map]
  exact List.map_congr_left fun entry member => (indexed.named entry member).symm

theorem found {table : Table α} (indexed : table.Indexed name) (member : item ∈ table.items) :
    table.get? (name item) = some item := by
  obtain ⟨⟨key, kept⟩, entered, rfl⟩ := List.mem_map.mp member
  have named : name kept = key := indexed.named _ entered
  cases hit : table.get? (name kept) with
  | none =>
    have absent := (table.get?_eq_none _).mp hit
    exact absurd (List.mem_map.mpr ⟨_, entered, named.symm⟩) absent
  | some other =>
    -- Two entries of one key are one entry.
    have same := List.inj_on_of_nodup_map indexed.distinct (mem_of_get? hit) entered named
    simp only [Prod.mk.injEq] at same
    rw [same.2]

theorem get?_eq_some {table : Table α} (indexed : table.Indexed name) :
    table.get? key = some item ↔ item ∈ table.items ∧ name item = key := by
  constructor
  · intro hit
    have entered := mem_of_get? hit
    exact ⟨List.mem_map.mpr ⟨_, entered, rfl⟩, indexed.named _ entered⟩
  · rintro ⟨member, rfl⟩
    exact indexed.found member

theorem insert {table : Table α} (indexed : table.Indexed name) (item : α)
    (fresh : name item ∉ table.keys) : (table.insert (name item) item).Indexed name := by
  constructor
  · rw [keys_insert fresh, List.nodup_append]
    refine ⟨indexed.distinct, List.nodup_singleton _, ?_⟩
    intro key member other last equal
    rw [List.mem_singleton.mp last] at equal
    exact fresh (equal ▸ member)
  · rw [entries_insert fresh]
    intro entry member
    rcases List.mem_append.mp member with old | new
    · exact indexed.named entry old
    · cases List.mem_singleton.mp new
      rfl

theorem erase {table : Table α} (indexed : table.Indexed name) (key : String) :
    (table.erase key).Indexed name := by
  constructor
  · rw [keys_erase]
    exact indexed.distinct.filter _
  · intro entry member
    exact indexed.named entry (List.mem_filter.mp member).1

theorem items_erase {table : Table α} (indexed : table.Indexed name) (key : String) :
    (table.erase key).items = table.items.filter (name · != key) := by
  simp only [items, Table.erase, List.filter_map]
  congr 1
  refine List.filter_congr fun entry member => ?_
  simp [indexed.named entry member]

theorem modify {table : Table α} (indexed : table.Indexed name) (key : String) {change : α → α}
    (keeps : ∀ item, name (change item) = name item) : (table.modify key change).Indexed name := by
  constructor
  · rw [keys_modify]
    exact indexed.distinct
  · intro entry member
    obtain ⟨old, entered, rfl⟩ := List.mem_map.mp member
    have named := indexed.named old entered
    by_cases same : old.1 = key <;> simp [same, keeps, named]

-- A change that makes no difference to the item it is made to makes none to the table.
theorem modify_same {table : Table α} (indexed : table.Indexed name) {change : α → α}
    (hit : table.get? key = some item) (idle : change item = item) : table.modify key change = table := by
  suffices kept : ∀ entry ∈ table.entries, (if entry.1 = key then (entry.1, change entry.2) else entry) = entry by
    simp only [Table.modify, List.map_congr_left kept, List.map_id']
  intro entry entered
  split
  · rename_i here
    have found := indexed.get?_eq_some.mpr ⟨List.mem_map.mpr ⟨entry, entered, rfl⟩, (indexed.named entry entered).trans here⟩
    rw [Option.some.inj (found.symm.trans hit), idle, ← Option.some.inj (found.symm.trans hit)]
  · rfl

end Indexed
end Dataflow.Table
