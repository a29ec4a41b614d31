/-
This file shows that the pages of an inventory are read as they were written, whatever the order
of their members and whatever else is written beside them.
-/

import Scaledown.Compute.Answer
import Scaledown.Compute.Inventory
import Scaledown.Proofs.Json.Members
import Scaledown.Proofs.Table

namespace Scaledown.Compute

open Json

/-- An instance is written as an object with its name, its zone and its status. -/
inductive Instance.WrittenAs (listed : Instance) : Json → Prop where
  | object {members : List (JsonText × Json)}
      (named : ∀ member ∈ members, member.1 ≠ none)
      (name : valuesOf members "name" = [.string (some listed.name)])
      (zone : valuesOf members "zone" = [.string (some listed.zone)])
      (status : Tells members "status" listed.status) : WrittenAs listed (.object members)

theorem Instance.ofJson?_of_writtenAs {listed : Instance} {json : Json}
    (written : listed.WrittenAs json) : Instance.ofJson? json = some listed := by
  obtain ⟨named, name, zone, status⟩ := written
  have legible : Legible ["name", "zone", "status"] _ := ⟨named, by
    simpa [name, zone] using status.length_le_one⟩
  obtain ⟨record, read, -, found⟩ := exists_record? legible
  have nameField : record.required "name" text? = some listed.name := by
    simp [Record.required, found "name", name, text?]
  have zoneField : record.required "zone" text? = some listed.zone := by
    simp [Record.required, found "zone", zone, text?]
  have statusField := Record.withDefault_text status (found "status" (by simp))
  simp [ofJson?, read, nameField, zoneField, statusField]

/-- A missing status is left out. -/
def Instance.toJson (listed : Instance) : Json :=
  .object ([(some "name", .string (some listed.name)), (some "zone", .string (some listed.zone))] ++
    listed.status.toList.map fun status => (some "status", .string (some status)))

theorem Instance.writtenAs_toJson (listed : Instance) : listed.WrittenAs listed.toJson := by
  obtain ⟨name, zone, status⟩ := listed
  cases status with
  | some status => exact .object (by simp) rfl rfl rfl
  | none => exact .object (by simp) rfl rfl (.inl rfl)

/-- The instances of a scope are the items of an array, which is left out if there are none. -/
inductive InstancesWrittenAs (instances : List Instance) : Json → Prop where
  | listed {members : List (JsonText × Json)} {items : List Json}
      (named : ∀ member ∈ members, member.1 ≠ none)
      (array : valuesOf members "instances" = [.array items])
      (each : List.Forall₂ Instance.WrittenAs instances items) :
      InstancesWrittenAs instances (.object members)
  | missing {members : List (JsonText × Json)}
      (named : ∀ member ∈ members, member.1 ≠ none)
      (array : valuesOf members "instances" = []) (none : instances = []) :
      InstancesWrittenAs instances (.object members)

theorem instancesOfJson?_of_writtenAs {instances : List Instance} {json : Json}
    (written : InstancesWrittenAs instances json) :
    Page.instancesOfJson? json = some instances := by
  cases written with
  | @listed members items named array each =>
    have legible : Legible ["instances"] members := ⟨named, by simp [array]⟩
    obtain ⟨record, read, -, found⟩ := exists_record? legible
    have items : items.mapM Instance.ofJson? = some instances :=
      mapM_eq_some (each.imp fun _ _ => Instance.ofJson?_of_writtenAs)
    simp [Page.instancesOfJson?, read, Record.withDefault, found "instances", array, array?, items]
  | @missing members named array none =>
    have legible : Legible ["instances"] members := ⟨named, by simp [array]⟩
    obtain ⟨record, read, -, found⟩ := exists_record? legible
    simp [Page.instancesOfJson?, read, Record.withDefault, found "instances", array, none]

namespace Page

/-- A scope is written as a member with its name. -/
def ScopeWrittenAs (scope : String × List Instance) (member : JsonText × Json) : Prop :=
  member.1 = some scope.1 ∧ InstancesWrittenAs scope.2 member.2

/-- The scopes are the members of an object, which is left out if there are none. -/
inductive ItemsWrittenAs (scopes : List (String × List Instance)) : List Json → Prop where
  | listed {members : List (JsonText × Json)}
      (each : List.Forall₂ ScopeWrittenAs scopes members) :
      ItemsWrittenAs scopes [.object members]
  | missing (none : scopes = []) : ItemsWrittenAs scopes []

/-- A page is written as an object with its scopes and the pointer to the next page. -/
inductive WrittenAs (page : Page) : Json → Prop where
  | object {members : List (JsonText × Json)}
      (named : ∀ member ∈ members, member.1 ≠ none)
      (items : ItemsWrittenAs page.scopes (valuesOf members "items"))
      (next : Tells members "nextPageToken" page.next) : WrittenAs page (.object members)

theorem ItemsWrittenAs.length_le_one {scopes : List (String × List Instance)}
    {values : List Json} (written : ItemsWrittenAs scopes values) : values.length ≤ 1 := by
  cases written <;> simp

theorem scopesOfJson?_of_writtenAs {scopes : List (String × List Instance)}
    {members : List (JsonText × Json)} (distinct : (scopes.map Prod.fst).Nodup)
    (each : List.Forall₂ ScopeWrittenAs scopes members) :
    scopesOfJson? (.object members) = some scopes := by
  have read : members.mapM scopeOfMember? = some scopes := by
    apply mapM_eq_some
    apply each.imp
    rintro ⟨name, instances⟩ ⟨key, json⟩ ⟨rfl, written⟩
    simp [scopeOfMember?, instancesOfJson?_of_writtenAs written]
  have filled : Table.putAll [] scopes = scopes :=
    @Table.putAll_eq_append _ [] _ (by simpa using distinct)
  simp [scopesOfJson?, read, filled]

/-- A page with distinct scopes is read as it was written. -/
theorem ofJson?_of_writtenAs {page : Page} {json : Json}
    (distinct : (page.scopes.map Prod.fst).Nodup) (written : page.WrittenAs json) :
    Page.ofJson? json = some page := by
  obtain ⟨named, items, next⟩ := written
  have legible : Legible ["items", "nextPageToken"] _ := ⟨named, by
    simpa using ⟨items.length_le_one, next.length_le_one⟩⟩
  obtain ⟨record, read, loose, found⟩ := exists_record? legible
  have nextField := Record.optional_text loose next (found "nextPageToken" (by simp))
  have scopesField : record.withDefault "items" [] scopesOfJson? = some page.scopes := by
    rw [Record.withDefault, found "items" (by simp)]
    generalize valuesOf _ "items" = values at items
    cases items with
    | listed each => exact scopesOfJson?_of_writtenAs distinct each
    | missing none => exact congrArg some none.symm
  simp [ofJson?, read, scopesField, nextField]

/-- A missing pointer is left out. -/
def toJson (page : Page) : Json :=
  .object ([(some "items", .object (page.scopes.map fun scope =>
      (some scope.1, .object [(some "instances", .array (scope.2.map Instance.toJson))])))] ++
    page.next.toList.map fun next => (some "nextPageToken", .string (some next)))

/-- Every page can be written. -/
theorem writtenAs_toJson (page : Page) : page.WrittenAs page.toJson := by
  obtain ⟨scopes, next⟩ := page
  have each : List.Forall₂ ScopeWrittenAs scopes (scopes.map fun scope =>
      (some scope.1, .object [(some "instances", .array (scope.2.map Instance.toJson))])) := by
    rw [List.forall₂_map_right_iff, List.forall₂_same]
    intro scope _
    refine ⟨rfl, .listed (by simp) rfl ?_⟩
    rw [List.forall₂_map_right_iff, List.forall₂_same]
    exact fun listed _ => listed.writtenAs_toJson
  cases next with
  | some next => exact .object (by simp) (.listed each) rfl
  | none => exact .object (by simp) (.listed each) (.inl rfl)

/-- An answer of success holds a page with distinct scopes. -/
structure AnsweredBy (page : Page) (response : Http.Response) : Prop where
  succeeded : 200 ≤ response.status ∧ response.status < 300
  distinct : (page.scopes.map Prod.fst).Nodup
  body : ∃ bytes text json, response.body = some bytes ∧ Text.ofBytes? bytes = some text ∧
    Json.ofText? text = some json ∧ page.WrittenAs json

theorem readAnswer_of_answeredBy {page : Page} {response : Http.Response}
    (answered : page.AnsweredBy response) : readAnswer Page.ofJson? response = .ok page := by
  obtain ⟨⟨low, high⟩, distinct, bytes, text, json, held, decoded, parsed, written⟩ := answered
  simp [readAnswer, Http.Response.succeeded, low, high, held, decoded, parsed,
    ofJson?_of_writtenAs distinct written]

end Page

end Scaledown.Compute
