/-
This file shows which changes of an object leave the fields of its record as they are.
-/

import Scaledown.Proofs.Json.Members

namespace Scaledown.Json

section Values

variable {name : String} {before after : List (JsonText × Json)}

theorem valuesOf_append : valuesOf (before ++ after) name =
    valuesOf before name ++ valuesOf after name := by
  simp [valuesOf]

theorem valuesOf_cons_self (value : Json) :
    valuesOf ((some name, value) :: after) name = value :: valuesOf after name := by
  simp [valuesOf]

theorem valuesOf_cons_of_ne {key : JsonText} (other : key ≠ some name) (value : Json) :
    valuesOf ((key, value) :: after) name = valuesOf after name := by
  simp [valuesOf, other]

end Values

/-- Members move, members with other names come in, members with the null value go, and the value
of a member changes as the inner edits of its name allow. -/
inductive MembersEdit (names : List String) (inner : String → Json → Json → Prop) :
    List (JsonText × Json) → List (JsonText × Json) → Prop where
  | reorder {members others : List (JsonText × Json)} (moved : members.Perm others) :
      MembersEdit names inner members others
  | insert {before after : List (JsonText × Json)} {name : String} (value : Json)
      (unknown : name ∉ names) :
      MembersEdit names inner (before ++ after) (before ++ (some name, value) :: after)
  | drop {before after : List (JsonText × Json)} {key : JsonText} :
      MembersEdit names inner (before ++ (key, .null) :: after) (before ++ after)
  | within {before after : List (JsonText × Json)} {name : String} {value other : Json}
      (changed : inner name value other) :
      MembersEdit names inner (before ++ (some name, value) :: after)
        (before ++ (some name, other) :: after)

/-- The value of a field stays, goes if it is the null value, or changes by an inner edit. -/
inductive Follows (change : Json → Json → Prop) : Option Json → Option Json → Prop where
  | same {value : Option Json} : Follows change value value
  | gone : Follows change (some .null) none
  | changed {value other : Json} (inner : change value other) :
      Follows change (some value) (some other)

section Edits

variable {names : List String} {inner : String → Json → Json → Prop} {name : String}
  {members others before after : List (JsonText × Json)}

theorem Legible.exists_value (legible : Legible names members) (known : name ∈ names) :
    ∃ value : Option Json, valuesOf members name = value.toList := by
  have once := legible.once name known
  cases held : valuesOf members name with
  | nil => exact ⟨none, rfl⟩
  | cons value others =>
    rw [held, List.length_cons] at once
    obtain rfl : others = [] := List.length_eq_zero_iff.1 (by omega)
    exact ⟨some value, rfl⟩

/-- No other member has the name of a known one. -/
theorem Legible.alone {value : Json}
    (legible : Legible names (before ++ (some name, value) :: after)) (known : name ∈ names) :
    valuesOf before name = [] ∧ valuesOf after name = [] := by
  have once := legible.once name known
  rw [valuesOf_append, valuesOf_cons_self, List.length_append, List.length_cons] at once
  exact ⟨List.length_eq_zero_iff.1 (by omega), List.length_eq_zero_iff.1 (by omega)⟩

theorem valuesOf_perm (moved : members.Perm others) :
    (valuesOf members name).Perm (valuesOf others name) :=
  (moved.filter _).map _

/-- An edit leaves at most one value under a known name, and that one follows the value before. -/
theorem MembersEdit.follows (edit : MembersEdit names inner members others)
    (legible : Legible names members) (known : name ∈ names) :
    ∃ value other : Option Json, valuesOf members name = value.toList ∧
      valuesOf others name = other.toList ∧ Follows (inner name) value other := by
  obtain ⟨value, held⟩ := legible.exists_value known
  cases edit with
  | reorder moved =>
    have kept : (valuesOf others name).Perm value.toList := held ▸ (valuesOf_perm moved).symm
    refine ⟨value, value, held, ?_, .same⟩
    cases value with
    | none => exact kept.eq_nil
    | some value => exact List.perm_singleton.1 kept
  | @insert before after key added unknown =>
    have other : some key ≠ some name := by
      rintro ⟨⟩
      exact unknown known
    refine ⟨value, value, held, ?_, .same⟩
    rw [valuesOf_append, valuesOf_cons_of_ne other, ← valuesOf_append, held]
  | @drop before after key =>
    by_cases same : key = some name
    · subst same
      obtain ⟨front, back⟩ := legible.alone known
      refine ⟨some .null, none, ?_, ?_, .gone⟩
      · rw [valuesOf_append, valuesOf_cons_self, front, back]
        rfl
      · rw [valuesOf_append, front, back]
        rfl
    · refine ⟨value, value, held, ?_, .same⟩
      rw [valuesOf_append, valuesOf_cons_of_ne same, ← valuesOf_append] at held
      exact held
  | @within before after key former latter changed =>
    by_cases same : key = name
    · subst same
      obtain ⟨front, back⟩ := legible.alone known
      refine ⟨some former, some latter, ?_, ?_, .changed changed⟩
      · rw [valuesOf_append, valuesOf_cons_self, front, back]
        rfl
      · rw [valuesOf_append, valuesOf_cons_self, front, back]
        rfl
    · have other : some key ≠ some name := fun both => same (Option.some.inj both)
      refine ⟨value, value, held, ?_, .same⟩
      rw [valuesOf_append, valuesOf_cons_of_ne other, ← valuesOf_append] at held ⊢
      exact held

theorem MembersEdit.named (edit : MembersEdit names inner members others)
    (named : ∀ member ∈ members, member.1 ≠ none) : ∀ member ∈ others, member.1 ≠ none := by
  cases edit with
  | reorder moved => exact fun member inside => named member (moved.mem_iff.2 inside)
  | insert value unknown =>
    rw [List.forall_mem_append, List.forall_mem_cons]
    obtain ⟨front, back⟩ := List.forall_mem_append.1 named
    exact ⟨front, Option.some_ne_none _, back⟩
  | drop =>
    rw [List.forall_mem_append, List.forall_mem_cons] at named
    exact List.forall_mem_append.2 ⟨named.1, named.2.2⟩
  | within changed =>
    rw [List.forall_mem_append, List.forall_mem_cons] at named ⊢
    exact ⟨named.1, Option.some_ne_none _, named.2.2⟩

/-- The record of an edited object is there, and its fields follow the fields before. -/
theorem MembersEdit.exists_record? {record : Record}
    (edit : MembersEdit names inner members others)
    (read : (Json.object members).record? names = some record) :
    ∃ later, (Json.object others).record? names = some later ∧
      ∀ name ∈ names, Follows (inner name) (record.find? name) (later.find? name) := by
  have legible := legible_of_record? read
  have legibleLater : Legible names others := by
    refine ⟨edit.named legible.named, fun name known => ?_⟩
    obtain ⟨_, other, -, heldLater, -⟩ := edit.follows legible known
    rw [heldLater]
    exact Option.length_toList_le
  obtain ⟨same, sameRead, -, found⟩ := Json.exists_record? legible
  obtain ⟨later, laterRead, -, foundLater⟩ := Json.exists_record? legibleLater
  obtain rfl : record = same := Option.some.inj (read.symm.trans sameRead)
  refine ⟨later, laterRead, fun name known => ?_⟩
  obtain ⟨value, other, held, heldLater, follows⟩ := edit.follows legible known
  rw [found name known, foundLater name known, held, heldLater, Option.head?_toList,
    Option.head?_toList]
  exact follows

end Edits

namespace Follows

variable {α : Type} {change : Json → Json → Prop} {record later : Record} {name : String}
  {read : Json → Option α} {missing value : α}

/-- A field with a default is read as before when the null value tells no more than its absence. -/
theorem withDefault_eq (follows : Follows change (record.find? name) (later.find? name))
    (null : ∀ value, read .null = some value → value = missing)
    (keeps : ∀ one other, change one other → read one = some value → read other = some value)
    (found : record.withDefault name missing read = some value) :
    later.withDefault name missing read = some value := by
  rw [Record.withDefault] at found ⊢
  generalize record.find? name = held at follows found
  generalize later.find? name = heldLater at follows ⊢
  cases follows with
  | same => exact found
  | gone => exact congrArg some (null value found).symm
  | changed inner => exact keeps _ _ inner found

theorem optional_eq {value : Option α}
    (follows : Follows change (record.find? name) (later.find? name))
    (keeps : ∀ one other, change one other →
      optional? read one = some value → optional? read other = some value)
    (found : record.withDefault name none (optional? read) = some value) :
    later.withDefault name none (optional? read) = some value :=
  follows.withDefault_eq (fun _ null => (Option.some.inj null).symm) keeps found

/-- A required field is never the null value, so it stays. -/
theorem required_eq (follows : Follows change (record.find? name) (later.find? name))
    (null : read .null = none)
    (keeps : ∀ one other, change one other → read one = some value → read other = some value)
    (found : record.required name read = some value) :
    later.required name read = some value := by
  rw [Record.required] at found ⊢
  generalize record.find? name = held at follows found
  generalize later.find? name = heldLater at follows ⊢
  cases follows with
  | same => exact found
  | gone => exact nomatch null.symm.trans found
  | changed inner => exact keeps _ _ inner found

end Follows

end Scaledown.Json
