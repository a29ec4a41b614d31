/-
This file holds tables with texts as keys.
-/

namespace Scaledown

/-- A table lists each key with its value once. -/
abbrev Table (α : Type) := List (String × α)

namespace Table

variable {α : Type}

def find? : Table α → String → Option α
  | [], _ => none
  | entry :: table, key => if entry.1 = key then some entry.2 else find? table key

def erase (table : Table α) (key : String) : Table α :=
  table.filter fun entry => entry.1 != key

/-- The new value takes the place of an older one for the same key. -/
def put (table : Table α) (key : String) (value : α) : Table α :=
  table.erase key ++ [(key, value)]

/-- The entries are put one after another. -/
def putAll (table : Table α) (entries : List (String × α)) : Table α :=
  entries.foldl (fun filled entry => filled.put entry.1 entry.2) table

def keys (table : Table α) : List String :=
  table.map Prod.fst

/-- The entries are listed in the order of their keys. -/
def sorted (table : Table α) : List (String × α) :=
  table.mergeSort fun first second => decide (first.1 ≤ second.1)

@[simp] theorem find?_nil (key : String) : find? ([] : Table α) key = none := rfl

@[simp] theorem keys_nil : keys ([] : Table α) = [] := rfl

@[simp] theorem find?_erase_self (table : Table α) (key : String) :
    (table.erase key).find? key = none := by
  induction table with
  | nil => rfl
  | cons entry table ih =>
    by_cases same : entry.1 = key
    · simpa [erase, same] using ih
    · simpa [erase, find?, same] using ih

theorem find?_erase_of_ne (table : Table α) {key other : String} (differs : other ≠ key) :
    (table.erase key).find? other = table.find? other := by
  induction table with
  | nil => rfl
  | cons entry table ih =>
    by_cases same : entry.1 = key
    · simpa [erase, find?, same, Ne.symm differs] using ih
    · by_cases hit : entry.1 = other
      · simp [erase, find?, hit, differs]
      · simpa [erase, find?, same, hit] using ih

theorem find?_append (first second : Table α) (key : String) :
    find? (first ++ second) key = (first.find? key).or (second.find? key) := by
  induction first with
  | nil => rfl
  | cons entry first ih =>
    by_cases hit : entry.1 = key
    · simp [find?, hit]
    · simpa [find?, hit] using ih

@[simp] theorem find?_put_self (table : Table α) (key : String) (value : α) :
    (table.put key value).find? key = some value := by
  rw [put, find?_append, find?_erase_self]
  simp [find?]

theorem find?_put_of_ne (table : Table α) {key other : String} (value : α)
    (differs : other ≠ key) : (table.put key value).find? other = table.find? other := by
  rw [put, find?_append, find?_erase_of_ne table differs]
  simp [find?, Ne.symm differs]

theorem mem_keys_put (table : Table α) (key other : String) (value : α) :
    other ∈ (table.put key value).keys ↔ other = key ∨ other ∈ table.keys := by
  simp only [put, keys, erase, List.map_append, List.map_cons, List.map_nil, List.mem_append,
    List.mem_map, List.mem_filter, List.mem_singleton, bne_iff_ne]
  constructor
  · rintro (⟨entry, ⟨inside, _⟩, rfl⟩ | rfl)
    · exact Or.inr ⟨entry, inside, rfl⟩
    · exact Or.inl rfl
  · rintro (rfl | ⟨entry, inside, rfl⟩)
    · exact Or.inr rfl
    · by_cases same : entry.1 = key
      · exact Or.inr same
      · exact Or.inl ⟨entry, ⟨inside, same⟩, rfl⟩

theorem nodup_keys_put {table : Table α} (key : String) (value : α)
    (distinct : table.keys.Nodup) : (table.put key value).keys.Nodup := by
  have kept : (table.erase key).keys.Nodup :=
    (List.filter_sublist.map Prod.fst).nodup distinct
  have fresh : key ∉ (table.erase key).keys := by
    simp [keys, erase]
  simp only [put, keys, List.map_append, List.map_cons, List.map_nil]
  refine List.nodup_append.2 ⟨kept, by simp, ?_⟩
  rintro first inFirst second inSecond rfl
  obtain rfl : first = key := by simpa using inSecond
  exact fresh inFirst

end Table

end Scaledown
