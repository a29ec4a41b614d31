/-
This file holds tables that are filled with fresh keys and lists that are divided.
-/

import Mathlib.Data.List.ReduceOption
import Mathlib.Tactic
import Scaledown.Table

namespace Scaledown

namespace Table

variable {α : Type}

theorem keys_append (first second : Table α) :
    keys (first ++ second) = first.keys ++ second.keys := by
  simp [keys]

theorem find?_eq_lookup (table : Table α) (key : String) :
    table.find? key = List.lookup key table := by
  induction table with
  | nil => rfl
  | cons entry table ih =>
    obtain ⟨name, value⟩ := entry
    by_cases same : name = key
    · simp [find?, same]
    · have differs : (key == name) = false := beq_eq_false_iff_ne.2 (Ne.symm same)
      simp [find?, List.lookup_cons, same, differs, ih]

/-- A fresh key goes to the end of the table. -/
theorem put_eq_append {table : Table α} {key : String} (value : α)
    (fresh : key ∉ table.keys) : table.put key value = table ++ [(key, value)] := by
  have kept : table.erase key = table := by
    apply List.filter_eq_self.2
    intro entry inside
    have differs : entry.1 ≠ key := by
      rintro rfl
      exact fresh (List.mem_map_of_mem inside)
    simpa using differs
  rw [put, kept]

/-- Entries with distinct fresh keys go to the end of the table in their order. -/
theorem putAll_eq_append {table : Table α} {entries : List (String × α)}
    (distinct : (table.keys ++ entries.map Prod.fst).Nodup) :
    table.putAll entries = table ++ entries := by
  induction entries generalizing table with
  | nil => simp [putAll]
  | cons entry entries ih =>
    obtain ⟨key, value⟩ := entry
    have fresh : key ∉ table.keys := by
      intro inside
      have apart := (List.nodup_append.1 distinct).2.2 key inside key (by simp)
      exact apart rfl
    have later : ((table ++ [(key, value)] : Table α).keys ++ entries.map Prod.fst).Nodup := by
      simpa [keys] using distinct
    have filled := ih later
    rw [putAll] at filled ⊢
    rw [List.foldl_cons, put_eq_append value fresh, filled]
    simp

/-- The entries of one more member go to the end of a table that is read off a list. -/
theorem putAll_filterMap_concat {β : Type} (listed? : β → Option (String × α))
    (earlier : List β) (member : β)
    (distinct : (keys ((earlier ++ [member]).filterMap listed?)).Nodup) :
    putAll (earlier.filterMap listed?) (listed? member).toList =
      (earlier ++ [member]).filterMap listed? := by
  have cut : (earlier ++ [member]).filterMap listed? =
      earlier.filterMap listed? ++ (listed? member).toList := by
    simp [List.filterMap_eq_flatMap_toList]
  rw [cut, keys_append] at distinct
  rw [cut]
  exact putAll_eq_append distinct

/-- A table with distinct keys finds every entry that it lists. -/
theorem find?_eq_some_iff {table : Table α} (distinct : table.keys.Nodup) (key : String)
    (value : α) : table.find? key = some value ↔ (key, value) ∈ table := by
  induction table with
  | nil => simp
  | cons entry table ih =>
    obtain ⟨first, held⟩ := entry
    obtain ⟨fresh, kept⟩ := List.nodup_cons.1 distinct
    by_cases hit : first = key
    · subst hit
      have absent : (first, value) ∉ table := by
        intro inside
        exact fresh (List.mem_map.2 ⟨_, inside, rfl⟩)
      simp [find?, absent, eq_comm]
    · simpa [find?, hit, Ne.symm hit] using ih kept

/-- A key is found when it is in the table or one of the entries that are put. -/
theorem find?_putAll_eq_none_iff {table : Table α} {entries : List (String × α)}
    {key : String} : (table.putAll entries).find? key = none ↔
      table.find? key = none ∧ ∀ entry ∈ entries, entry.1 ≠ key := by
  induction entries generalizing table with
  | nil => simp [putAll]
  | cons entry entries ih =>
    have later : table.putAll (entry :: entries) = (table.put entry.1 entry.2).putAll entries := rfl
    rw [later, ih, List.forall_mem_cons]
    by_cases hit : entry.1 = key
    · subst hit
      simp
    · simp [hit, find?_put_of_ne table entry.2 (Ne.symm hit)]

/-- The last of the entries for a key takes the place of what was in the table. -/
theorem find?_putAll (table : Table α) (entries : List (String × α)) (key : String) :
    (table.putAll entries).find? key =
      ((entries.filter fun entry => entry.1 = key).getLast?.map Prod.snd).or
        (table.find? key) := by
  induction entries using List.reverseRecOn with
  | nil => rfl
  | append_singleton entries entry ih =>
    have filled : table.putAll (entries ++ [entry]) =
        (table.putAll entries).put entry.1 entry.2 := by
      simp [putAll]
    rw [filled, List.filter_append, List.getLast?_append]
    by_cases hit : entry.1 = key
    · subst hit
      simp
    · rw [find?_put_of_ne _ _ (Ne.symm hit), ih]
      simp [hit]

theorem find?_eq_none_iff {table : Table α} {key : String} :
    table.find? key = none ↔ key ∉ table.keys := by
  induction table with
  | nil => simp
  | cons entry table ih =>
    by_cases hit : entry.1 = key
    · simp [find?, keys, hit]
    · simpa [find?, keys, hit, Ne.symm hit] using ih

/-- What a table finds is listed in it. -/
theorem mem_of_find?_eq_some {table : Table α} {key : String} {value : α}
    (found : table.find? key = some value) : (key, value) ∈ table := by
  induction table with
  | nil => cases found
  | cons entry table ih =>
    obtain ⟨first, held⟩ := entry
    by_cases hit : first = key
    · subst hit
      simp_all [find?]
    · exact List.mem_cons_of_mem _ (ih (by simpa [find?, hit] using found))

end Table

/-- A member is kept at its first place only. -/
theorem eraseDups_concat {α : Type} [BEq α] [LawfulBEq α] (members : List α) (member : α) :
    (members ++ [member]).eraseDups =
      members.eraseDups ++ if member ∈ members then [] else [member] := by
  rw [List.eraseDups_append]
  by_cases known : member ∈ members <;> simp [List.removeAll, List.eraseDups_cons, known]

theorem nodup_eraseDups {α : Type} [BEq α] [LawfulBEq α] (members : List α) :
    members.eraseDups.Nodup := by
  induction members using List.reverseRecOn with
  | nil => simp
  | append_singleton members member ih =>
    rw [eraseDups_concat]
    by_cases known : member ∈ members
    · simpa [known] using ih
    · rw [if_neg known]
      apply ih.append (List.nodup_singleton member)
      simpa using known

/-- What is picked by a stricter choice is picked in the same order by the other one. -/
theorem filterMap_sublist_filterMap {α β : Type} (strict wide : α → Option β)
    (members : List α) (agree : ∀ member ∈ members, ∀ value,
      strict member = some value → wide member = some value) :
    (members.filterMap strict).Sublist (members.filterMap wide) := by
  induction members with
  | nil => simp
  | cons member members ih =>
    have rest := ih fun other inside => agree other (List.mem_cons_of_mem _ inside)
    cases inStrict : strict member with
    | some value =>
      rw [List.filterMap_cons_some inStrict,
        List.filterMap_cons_some (agree member List.mem_cons_self value inStrict)]
      exact rest.cons_cons value
    | none =>
      rw [List.filterMap_cons_none inStrict]
      cases inWide : wide member with
      | none => rwa [List.filterMap_cons_none inWide]
      | some value =>
        rw [List.filterMap_cons_some inWide]
        exact rest.cons value

/-- A list is divided when each of its members goes to exactly one of three lists. -/
theorem filterMap_divide_perm {α β : Type} (key : α → β) (first second third : α → Option β)
    (members : List α)
    (one : ∀ member ∈ members,
      [first member, second member, third member].reduceOption = [key member]) :
    (members.filterMap first ++ members.filterMap second ++ members.filterMap third).Perm
      (members.map key) := by
  induction members with
  | nil => simp
  | cons member members ih =>
    have rest := ih fun other inside => one other (List.mem_cons_of_mem _ inside)
    have head := one member List.mem_cons_self
    have front := rest.cons (key member)
    cases inFirst : first member with
    | some value =>
      cases inSecond : second member <;> cases inThird : third member <;>
        simp_all
    | none =>
      cases inSecond : second member with
      | some value =>
        cases inThird : third member with
        | some value => simp_all
        | none =>
          obtain rfl : value = key member := by simp_all
          simp only [List.filterMap_cons_none inFirst, List.filterMap_cons_some inSecond,
            List.filterMap_cons_none inThird, List.append_assoc, List.map_cons,
            List.cons_append] at front ⊢
          exact List.perm_middle.trans front
      | none =>
        cases inThird : third member with
        | none => simp_all
        | some value =>
          obtain rfl : value = key member := by simp_all
          simp only [List.filterMap_cons_none inFirst, List.filterMap_cons_none inSecond,
            List.filterMap_cons_some inThird, List.map_cons] at front ⊢
          exact List.perm_middle.trans front

end Scaledown
