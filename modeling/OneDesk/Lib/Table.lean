import Mathlib.Data.Finmap

/-!
# Tables

Finite maps as a program uses them: extended by another map, filtered, or
changed at one key.  Every operation is described by what a lookup sees
afterwards, so tables are compared key by key.
-/

namespace OneDesk
namespace Lib

/-- A finite map whose entries have no order. -/
abbrev Table (Key Value : Type*) := Finmap fun _ : Key => Value

namespace Table

variable {Key Value : Type*}

/-- Keep the entries that pass a test. -/
def retain (keep : Key → Value → Bool) (table : Table Key Value) :
    Table Key Value where
  entries := table.entries.filter fun entry => keep entry.1 entry.2
  nodupKeys := by
    rw [← Multiset.nodup_keys]
    exact Multiset.nodup_of_le (Multiset.map_le_map (Multiset.filter_le _ _))
      (Multiset.nodup_keys.mpr table.nodupKeys)

/-- Change every value. -/
def mapValues {Other : Type*} (change : Key → Value → Other)
    (table : Table Key Value) : Table Key Other where
  entries := table.entries.map fun entry => ⟨entry.1, change entry.1 entry.2⟩
  nodupKeys := by
    rw [← Multiset.nodup_keys, Multiset.keys, Multiset.map_map]
    exact Multiset.nodup_keys.mpr table.nodupKeys

/-- Number of entries. -/
def length (table : Table Key Value) : Nat := table.entries.card

variable [DecidableEq Key]

/-- Take over all entries of another table. -/
def extend (table other : Table Key Value) : Table Key Value := other ∪ table

/-- Change the value of a key that is there. -/
def modify (key : Key) (change : Value → Value) (table : Table Key Value) :
    Table Key Value :=
  match table.lookup key with
  | some value => table.insert key (change value)
  | none => table

theorem lookup_insert_eq
    (key other : Key)
    (value : Value)
    (table : Table Key Value) :
    (table.insert key value).lookup other =
      if other = key then some value else table.lookup other := by
  by_cases same : other = key
  · rw [same, if_pos rfl, Finmap.lookup_insert]
  · rw [if_neg same, Finmap.lookup_insert_of_ne _ same]

theorem lookup_erase_eq
    (key other : Key)
    (table : Table Key Value) :
    (table.erase key).lookup other =
      if other = key then none else table.lookup other := by
  by_cases same : other = key
  · rw [same, if_pos rfl, Finmap.lookup_erase]
  · rw [if_neg same, Finmap.lookup_erase_ne same]

theorem lookup_extend
    (key : Key)
    (table other : Table Key Value) :
    (table.extend other).lookup key =
      (other.lookup key).or (table.lookup key) := by
  by_cases present : key ∈ other
  · obtain ⟨value, value_eq⟩ := Finmap.mem_iff.mp present
    rw [extend, Finmap.lookup_union_left present, value_eq, Option.some_or]
  · rw [extend, Finmap.lookup_union_right present,
      Finmap.lookup_eq_none.mpr present, Option.none_or]

theorem lookup_retain
    (keep : Key → Value → Bool)
    (key : Key)
    (table : Table Key Value) :
    (table.retain keep).lookup key = (table.lookup key).filter (keep key) := by
  apply Option.ext
  intro value
  rw [Option.filter_eq_some_iff, Finmap.lookup_eq_some_iff,
    Finmap.lookup_eq_some_iff]
  simp [retain]

@[simp] theorem lookup_mapValues
    {Other : Type*}
    (change : Key → Value → Other)
    (key : Key)
    (table : Table Key Value) :
    (table.mapValues change).lookup key =
      (table.lookup key).map (change key) := by
  apply Option.ext
  intro value
  rw [Option.map_eq_some_iff, Finmap.lookup_eq_some_iff]
  simp [mapValues, Finmap.lookup_eq_some_iff]

theorem lookup_modify
    (key other : Key)
    (change : Value → Value)
    (table : Table Key Value) :
    (table.modify key change).lookup other =
      if other = key then (table.lookup other).map change
      else table.lookup other := by
  unfold modify
  cases found : table.lookup key with
  | some value =>
      rw [lookup_insert_eq]
      split
      case isTrue same => rw [same, found, Option.map_some]
      case isFalse => rfl
  | none =>
      by_cases same : other = key
      · subst same
        simp [found]
      · simp [same]

theorem length_pos_of_lookup
    {key : Key}
    {value : Value}
    {table : Table Key Value}
    (found : table.lookup key = some value) :
    0 < table.length := by
  exact Multiset.card_pos_iff_exists_mem.mpr ⟨_, Finmap.lookup_eq_some_iff.mp found⟩

theorem mem_keys_iff
    {key : Key}
    {table : Table Key Value} :
    key ∈ table.keys ↔ (table.lookup key).isSome :=
  Finmap.mem_keys.trans Finmap.lookup_isSome.symm

@[simp] theorem keys_mapValues
    {Other : Type*}
    (change : Key → Value → Other)
    (table : Table Key Value) :
    (table.mapValues change).keys = table.keys := by
  ext key
  simp [mem_keys_iff]

@[simp] theorem keys_extend (table other : Table Key Value) :
    (table.extend other).keys = other.keys ∪ table.keys := by
  ext key
  simp [mem_keys_iff, lookup_extend]

@[simp] theorem keys_insert
    (key : Key)
    (value : Value)
    (table : Table Key Value) :
    (table.insert key value).keys = insert key table.keys := by
  ext other
  rw [Finset.mem_insert, mem_keys_iff, mem_keys_iff, lookup_insert_eq]
  split <;> simp_all

@[simp] theorem keys_erase
    (key : Key)
    (table : Table Key Value) :
    (Finmap.erase key table).keys = table.keys.erase key := by
  ext other
  rw [Finset.mem_erase, mem_keys_iff, mem_keys_iff, lookup_erase_eq]
  split <;> simp_all

/-- Changing several keys changes each of them once. -/
theorem lookup_foldl_modify
    {keys : List Key}
    (distinct : keys.Nodup)
    (key : Key)
    (change : Value → Value)
    (table : Table Key Value) :
    (keys.foldl (fun current each => current.modify each change) table).lookup
        key =
      if key ∈ keys then (table.lookup key).map change
      else table.lookup key := by
  induction keys generalizing table with
  | nil => simp
  | cons first keys inductionHypothesis =>
      obtain ⟨fresh, distinct⟩ := List.nodup_cons.mp distinct
      rw [List.foldl_cons, inductionHypothesis distinct, lookup_modify]
      by_cases same : key = first
      · simp [same, fresh]
      · simp [same]

end Table

end Lib
end OneDesk
