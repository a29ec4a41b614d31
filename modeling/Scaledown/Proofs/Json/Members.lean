/-
This file tells what a record finds among the members of an object in any order.
-/

import Mathlib.Tactic
import Scaledown.Json.Record

namespace Scaledown.Json

/-- The values that stand under one name are listed in order. -/
def valuesOf (members : List (JsonText × Json)) (name : String) : List Json :=
  (members.filter fun member => member.1 = some name).map Prod.snd

/-- Every name can be read, and of these names none is there twice. -/
structure Legible (names : List String) (members : List (JsonText × Json)) : Prop where
  named : ∀ member ∈ members, member.1 ≠ none
  once : ∀ name ∈ names, (valuesOf members name).length ≤ 1

/-- A text stands under its name, and a missing text is left out or written as the null value. -/
def Tells (members : List (JsonText × Json)) (name : String) : Option String → Prop
  | some text => valuesOf members name = [.string (some text)]
  | none => valuesOf members name = [] ∨ valuesOf members name = [.null]

variable {members : List (JsonText × Json)}

theorem Tells.length_le_one {name : String} {text : Option String}
    (told : Tells members name text) : (valuesOf members name).length ≤ 1 := by
  cases text with
  | some text =>
    rw [show valuesOf members name = [.string (some text)] from told]
    exact le_rfl
  | none =>
    rcases told with missing | null
    · simp [missing]
    · simp [null]

/-- The known members keep the values of the known names. -/
theorem exists_knownMembers (names : List String)
    (named : ∀ member ∈ members, member.1 ≠ none) :
    ∃ known, knownMembers names members = some known ∧
      ∀ name, (known.filter fun field => field.1 = name).map Prod.snd =
        if name ∈ names then valuesOf members name else [] := by
  induction members with
  | nil => exact ⟨[], rfl, by simp [valuesOf]⟩
  | cons member members ih =>
    obtain ⟨key, value⟩ := member
    obtain ⟨key, rfl⟩ := Option.ne_none_iff_exists'.1 (named (key, value) List.mem_cons_self)
    obtain ⟨known, read, kept⟩ := ih fun other inside => named other (.tail _ inside)
    refine ⟨if key ∈ names then (key, value) :: known else known, ?_, fun name => ?_⟩
    · simp [knownMembers, read]
    · by_cases same : key = name
      · subst same
        by_cases inside : key ∈ names <;> simp_all [valuesOf]
      · by_cases inside : key ∈ names <;> simp_all [valuesOf]

theorem lookup_eq_head? (known : List (String × Json)) (name : String) :
    known.lookup name = ((known.filter fun field => field.1 = name).map Prod.snd).head? := by
  induction known with
  | nil => rfl
  | cons field known ih =>
    obtain ⟨key, value⟩ := field
    by_cases same : key = name
    · simp [same]
    · have other : (name == key) = false := beq_eq_false_iff_ne.2 (Ne.symm same)
      simp [List.lookup_cons, other, same, ih]

theorem count_map_fst (known : List (String × Json)) (name : String) :
    (known.map Prod.fst).count name =
      ((known.filter fun field => field.1 = name).map Prod.snd).length := by
  rw [List.count, List.countP_map, List.countP_eq_length_filter, List.length_map]
  rfl

/-- The record of a legible object finds what stands under its names. -/
theorem exists_record? {names : List String} (legible : Legible names members) :
    ∃ record, (Json.object members).record? names = some record ∧ record.inOrder = false ∧
      ∀ name ∈ names, record.find? name = (valuesOf members name).head? := by
  obtain ⟨known, read, kept⟩ := exists_knownMembers names legible.named
  have distinct : (known.map Prod.fst).Nodup := by
    rw [List.nodup_iff_count_le_one]
    intro name
    rw [count_map_fst, kept]
    split
    · exact legible.once name ‹_›
    · simp
  refine ⟨⟨false, known⟩, ?_, rfl, fun name inside => ?_⟩
  · simp [record?, read, distinct]
  · rw [Record.find?, lookup_eq_head?, kept, if_pos inside]

theorem named_of_knownMembers {names : List String} {known : List (String × Json)}
    (read : knownMembers names members = some known) :
    ∀ member ∈ members, member.1 ≠ none := by
  induction members generalizing known with
  | nil => exact List.forall_mem_nil _
  | cons member members ih =>
    obtain ⟨key, value⟩ := member
    cases key with
    | none => cases read
    | some key =>
      obtain ⟨later, laterRead, -⟩ := Option.map_eq_some_iff.1 read
      exact List.forall_mem_cons.2 ⟨Option.some_ne_none key, ih laterRead⟩

/-- An object that is read as a record is legible. -/
theorem legible_of_record? {names : List String} {record : Record}
    (read : (Json.object members).record? names = some record) : Legible names members := by
  simp only [record?, Option.bind_eq_bind, Option.bind_eq_some_iff] at read
  obtain ⟨fields, fieldsRead, checked⟩ := read
  have distinct : (fields.map Prod.fst).Nodup := by
    by_contra repeated
    rw [if_neg repeated] at checked
    cases checked
  have named := named_of_knownMembers fieldsRead
  obtain ⟨known, knownRead, kept⟩ := exists_knownMembers names named
  obtain rfl : fields = known := Option.some.inj (fieldsRead.symm.trans knownRead)
  refine ⟨named, fun name inside => ?_⟩
  have counted := List.nodup_iff_count_le_one.1 distinct name
  rwa [count_map_fst, kept, if_pos inside] at counted

namespace Record

variable {record : Record} {name : String}

/-- A field with a default is read from the text under its name. -/
theorem withDefault_text {text : Option String} (told : Tells members name text)
    (found : record.find? name = (valuesOf members name).head?) :
    record.withDefault name none (optional? text?) = some text := by
  cases text with
  | some text =>
    rw [show valuesOf members name = [.string (some text)] from told] at found
    simp [withDefault, found, optional?, text?]
  | none =>
    rcases told with missing | null
    · simp [withDefault, found, missing]
    · simp [withDefault, found, null, optional?]

theorem optional_text {text : Option String} (loose : record.inOrder = false)
    (told : Tells members name text)
    (found : record.find? name = (valuesOf members name).head?) :
    record.optional name text? = some text := by
  cases text with
  | some text =>
    rw [show valuesOf members name = [.string (some text)] from told] at found
    simp [optional, found, text?]
  | none =>
    rcases told with missing | null
    · simp [optional, found, missing, loose]
    · simp [optional, found, null]

end Record

/-- Items are read one by one. -/
theorem mapM_eq_some {α β : Type} {read : α → Option β} {items : List α} {values : List β}
    (each : List.Forall₂ (fun value item => read item = some value) values items) :
    items.mapM read = some values := by
  induction each with
  | nil => rfl
  | cons first _ rest => simp [List.mapM_cons, first, rest]

end Scaledown.Json
