/-
This file shows that operations are read back from their wire form, and that members of no
concern and spaces do not change what is read.
-/

import Mathlib.Logic.Relation
import Scaledown.Compute.Operation
import Scaledown.Proofs.Json.Edit
import Scaledown.Proofs.Json.Writer

namespace Scaledown.Compute

open Json

/-- An optional text is told by what is written for it. -/
theorem tells_of_eq_ofOption {members : List (JsonText × Json)} {name : String}
    {text : Option String} (held : valuesOf members name = [ofOption ofString text]) :
    Tells members name text := by
  cases text with
  | none => exact .inr held
  | some text => exact held

namespace OperationFault

theorem ofJson?_toJson (fault : OperationFault) : ofJson? fault.toJson = some fault := by
  obtain ⟨code, message⟩ := fault
  have legible : Legible ["code", "message"] [(some "code", ofOption ofString code),
      (some "message", ofOption ofString message)] :=
    ⟨by simp, by simp [valuesOf]⟩
  obtain ⟨record, read, -, found⟩ := exists_record? legible
  have codeField := Record.withDefault_text (tells_of_eq_ofOption rfl) (found "code" (by simp))
  have messageField :=
    Record.withDefault_text (tells_of_eq_ofOption rfl) (found "message" (by simp))
  simp [ofJson?, toJson, read, codeField, messageField]

theorem spelled_toJson (fault : OperationFault) : Spelled fault.toJson.tokens :=
  spelled_object (by simp [spelled_ofOption spelled_ofString])

end OperationFault

theorem OperationStatus.ofWireName?_wireName (status : OperationStatus) :
    OperationStatus.ofWireName? status.wireName = some status := by
  cases status <;> rfl

namespace Operation

theorem faultsOfJson?_faultsToJson (faults : List OperationFault) :
    faultsOfJson? (faultsToJson faults) = some faults := by
  have each : (faults.map OperationFault.toJson).mapM OperationFault.ofJson? = some faults := by
    apply mapM_eq_some
    rw [List.forall₂_map_right_iff, List.forall₂_same]
    exact fun fault _ => fault.ofJson?_toJson
  simp [faultsOfJson?, faultsToJson, record?, knownMembers, Record.withDefault, Record.find?,
    array?, each]

theorem ofJson?_toJson (operation : Operation) : ofJson? operation.toJson = some operation := by
  obtain ⟨name, zone, region, status, targetLink, faults⟩ := operation
  have legible : Legible ["name", "zone", "region", "status", "targetLink", "error"]
      [(some "name", ofString name), (some "zone", ofOption ofString zone),
        (some "region", ofOption ofString region), (some "status", ofString status.wireName),
        (some "targetLink", ofOption ofString targetLink),
        (some "error", ofOption faultsToJson faults)] :=
    ⟨by simp, by simp [valuesOf]⟩
  obtain ⟨record, read, -, found⟩ := exists_record? legible
  have nameField : record.required "name" text? = some name := by
    rw [Record.required, found "name" (by simp)]
    rfl
  have zoneField := Record.withDefault_text (tells_of_eq_ofOption rfl) (found "zone" (by simp))
  have regionField :=
    Record.withDefault_text (tells_of_eq_ofOption rfl) (found "region" (by simp))
  have statusField : record.withDefault "status" .pending statusOfJson? = some status := by
    rw [Record.withDefault, found "status" (by simp)]
    exact OperationStatus.ofWireName?_wireName status
  have linkField :=
    Record.withDefault_text (tells_of_eq_ofOption rfl) (found "targetLink" (by simp))
  have faultsField :
      record.withDefault "error" none (optional? faultsOfJson?) = some faults := by
    rw [Record.withDefault, found "error" (by simp)]
    cases faults with
    | none => rfl
    | some faults => exact congrArg (Option.map some) (faultsOfJson?_faultsToJson faults)
  simp [ofJson?, toJson, read, nameField, zoneField, regionField, statusField, linkField,
    faultsField]

theorem spelled_toJson (operation : Operation) : Spelled operation.toJson.tokens := by
  have faults (held : List OperationFault) : Spelled (faultsToJson held).tokens :=
    spelled_object (by
      simpa using spelled_array (by simp [OperationFault.spelled_toJson]))
  exact spelled_object (by
    simp [spelled_ofString, spelled_ofOption spelled_ofString, spelled_ofOption faults])

/-- An operation is read back from its wire form. -/
theorem ofText?_wireText (operation : Operation) :
    ofText? operation.wireText = some operation := by
  rw [ofText?, wireText, ofText?_text operation.spelled_toJson]
  exact operation.ofJson?_toJson

end Operation

/-- An error item changes in its members only. -/
inductive OperationFault.Edit : Json → Json → Prop where
  | members {members others : List (JsonText × Json)}
      (edit : MembersEdit ["code", "message"] (fun _ _ _ => False) members others) :
      Edit (.object members) (.object others)

theorem OperationFault.Edit.ofJson?_eq {json later : Json} {fault : OperationFault}
    (edit : OperationFault.Edit json later) (read : ofJson? json = some fault) :
    ofJson? later = some fault := by
  obtain ⟨edit⟩ := edit
  simp only [ofJson?, Option.bind_eq_bind, Option.bind_eq_some_iff] at read ⊢
  obtain ⟨record, recordRead, code, codeRead, message, messageRead, same⟩ := read
  obtain ⟨later, laterRead, follows⟩ := edit.exists_record? recordRead
  exact ⟨later, laterRead, code, (follows "code" (by simp)).optional_eq nofun codeRead,
    message, (follows "message" (by simp)).optional_eq nofun messageRead, same⟩

namespace Operation

/-- One item of the list changes. -/
inductive FaultsEdit : Json → Json → Prop where
  | item {before after : List Json} {item other : Json} (edit : OperationFault.Edit item other) :
      FaultsEdit (.array (before ++ item :: after)) (.array (before ++ other :: after))

/-- The error member holds the list among its members, or the list alone in a row. -/
inductive ErrorEdit : Json → Json → Prop where
  | members {members others : List (JsonText × Json)}
      (edit : MembersEdit ["errors"] (fun name one other => name = "errors" ∧ FaultsEdit one other)
        members others) : ErrorEdit (.object members) (.object others)
  | row {list other : Json} (edit : FaultsEdit list other) :
      ErrorEdit (.array [list]) (.array [other])

/-- An operation changes in its members and inside its error member. -/
inductive Edit : Json → Json → Prop where
  | members {members others : List (JsonText × Json)}
      (edit : MembersEdit ["name", "zone", "region", "status", "targetLink", "error"]
        (fun name one other => name = "error" ∧ ErrorEdit one other) members others) :
      Edit (.object members) (.object others)

section Edits

variable {json later : Json}

theorem FaultsEdit.array?_eq {faults : List OperationFault} (edit : FaultsEdit json later)
    (read : array? OperationFault.ofJson? json = some faults) :
    array? OperationFault.ofJson? later = some faults := by
  obtain ⟨edit⟩ := edit
  simp only [array?, List.mapM_append, List.mapM_cons, Option.bind_eq_bind,
    Option.bind_eq_some_iff] at read ⊢
  obtain ⟨former, formerRead, latter, ⟨fault, faultRead, rest⟩, same⟩ := read
  exact ⟨former, formerRead, latter, ⟨fault, edit.ofJson?_eq faultRead, rest⟩, same⟩

theorem ErrorEdit.faultsOfJson?_eq {faults : List OperationFault} (edit : ErrorEdit json later)
    (read : faultsOfJson? json = some faults) : faultsOfJson? later = some faults := by
  simp only [faultsOfJson?, Option.bind_eq_bind, Option.bind_eq_some_iff] at read ⊢
  obtain ⟨record, recordRead, found⟩ := read
  cases edit with
  | members edit =>
    obtain ⟨later, laterRead, follows⟩ := edit.exists_record? recordRead
    exact ⟨later, laterRead, (follows "errors" (by simp)).withDefault_eq nofun
      (fun _ _ inner => inner.2.array?_eq) found⟩
  | row edit =>
    cases recordRead
    exact ⟨_, rfl, edit.array?_eq found⟩

/-- An edited error member is never the null value. -/
theorem ErrorEdit.optional?_eq {held : Option (List OperationFault)} (edit : ErrorEdit json later)
    (read : optional? faultsOfJson? json = some held) :
    optional? faultsOfJson? later = some held := by
  have present : (faultsOfJson? json).map some = some held := by
    cases edit <;> exact read
  obtain ⟨faults, found, same⟩ := Option.map_eq_some_iff.1 present
  have kept : (faultsOfJson? later).map some = some held :=
    Option.map_eq_some_iff.2 ⟨faults, edit.faultsOfJson?_eq found, same⟩
  cases edit <;> exact kept

theorem Edit.ofJson?_eq {operation : Operation} (edit : Edit json later)
    (read : ofJson? json = some operation) : ofJson? later = some operation := by
  obtain ⟨edit⟩ := edit
  simp only [ofJson?, Option.bind_eq_bind, Option.bind_eq_some_iff] at read ⊢
  obtain ⟨record, recordRead, name, nameRead, zone, zoneRead, region, regionRead, status,
    statusRead, link, linkRead, faults, faultsRead, same⟩ := read
  obtain ⟨later, laterRead, follows⟩ := edit.exists_record? recordRead
  -- Only the error member changes inside.
  have still {α : Type} {field : String} {reader : Json → Option α} {value : α}
      (other : field ≠ "error") : ∀ one changed, field = "error" ∧ ErrorEdit one changed →
        reader one = some value → reader changed = some value :=
    fun _ _ inner => absurd inner.1 other
  exact ⟨later, laterRead,
    name, (follows "name" (by simp)).required_eq rfl (still (by decide)) nameRead,
    zone, (follows "zone" (by simp)).optional_eq (still (by decide)) zoneRead,
    region, (follows "region" (by simp)).optional_eq (still (by decide)) regionRead,
    status, (follows "status" (by simp)).withDefault_eq nofun (still (by decide)) statusRead,
    link, (follows "targetLink" (by simp)).optional_eq (still (by decide)) linkRead,
    faults, (follows "error" (by simp)).optional_eq (fun _ _ inner => inner.2.optional?_eq)
      faultsRead, same⟩

end Edits

/-- A text changes by spaces between its tokens. Or its value changes by an edit, and the other
text holds the tokens of the changed value. -/
inductive WireEdit : String → String → Prop where
  | spaced {text other : String} (spaced : Spaced text other) : WireEdit text other
  | members {text other : String} {json later : Json} (read : Json.ofText? text = some json)
      (edit : Edit json later) (written : tokens? other.toList = some later.tokens) :
      WireEdit text other

theorem WireEdit.ofText?_eq {text other : String} {operation : Operation}
    (edit : WireEdit text other) (read : ofText? text = some operation) :
    ofText? other = some operation := by
  cases edit with
  | spaced spaced => rwa [ofText?, spaced.ofText?_eq]
  | members jsonRead edit written =>
    rw [ofText?, jsonRead] at read
    rw [ofText?, ofText?_of_tokens? written]
    exact edit.ofJson?_eq read

/-- Every operation is read back from its wire form. In any text that is read as an operation, the
order of members, unknown members, null members and spaces between tokens do not matter, and every
changed value has a text of its own. -/
theorem wire_form_tells_operation :
    (∀ operation : Operation, ofText? operation.wireText = some operation) ∧
      (∀ text other operation, ofText? text = some operation →
        Relation.ReflTransGen WireEdit text other → ofText? other = some operation) ∧
      ∀ json : Json, Spelled json.tokens → tokens? json.text.toList = some json.tokens := by
  refine ⟨ofText?_wireText, fun text other operation read edits => ?_, fun _ => tokens?_text⟩
  induction edits with
  | refl => exact read
  | tail _ edit ih => exact edit.ofText?_eq ih

def lostOperation : Operation :=
  ⟨"o", none, none, .done, none, some [⟨some "GONE", none⟩]⟩

/-- The error item of a lost operation may have further members. -/
def lostMembers (further : List (JsonText × Json)) : List (JsonText × Json) :=
  [(some "name", ofString "o"), (some "status", ofString "DONE"),
    (some "error", .object [(some "errors",
      .array [.object ((some "code", ofString "GONE") :: further)])])]

def lostText : String :=
  "\x7b\"zone\":null,\"name\":\"o\",\"status\":\"DONE\"," ++
    "\"error\":\x7b\"errors\":[\x7b\"code\":\"GONE\"\x7d]\x7d\x7d"

def zonelessText : String :=
  "\x7b\"name\":\"o\",\"status\":\"DONE\"," ++
    "\"error\":\x7b\"errors\":[\x7b\"code\":\"GONE\"\x7d]\x7d\x7d"

/-- The front and the back of a text with one more member are whole tokens. -/
def datedFront : String :=
  "\x7b\"name\":\"o\",\"status\":\"DONE\","

def datedBack : String :=
  "\"error\":\x7b\"errors\":[\x7b\"code\":\"GONE\",\"at\":[0]\x7d]\x7d\x7d"

set_option maxRecDepth 100000 in
theorem tokens?_lostText : tokens? lostText.toList =
    some (Json.object ((some "zone", .null) :: lostMembers [])).tokens := rfl

set_option maxRecDepth 100000 in
theorem tokens?_zonelessText :
    tokens? zonelessText.toList = some (Json.object (lostMembers [])).tokens := rfl

set_option maxRecDepth 100000 in
theorem tokens?_dated : tokens? (datedFront ++ datedBack).toList =
    some (Json.object (lostMembers [(some "at", .array [.number "0"])])).tokens := rfl

theorem edit_lostMembers {name : String} (value : Json) (unknown : name ∉ ["code", "message"]) :
    Edit (.object (lostMembers [])) (.object (lostMembers [(some name, value)])) := by
  have item := OperationFault.Edit.members
    (@MembersEdit.insert _ _ [(some "code", ofString "GONE")] [] name value unknown)
  have error := ErrorEdit.members
    (@MembersEdit.within _ _ [] [] "errors" _ _ ⟨rfl, @FaultsEdit.item [] [] _ _ item⟩)
  exact .members (@MembersEdit.within _ _ [(some "name", ofString "o"),
    (some "status", ofString "DONE")] [] "error" _ _ ⟨rfl, error⟩)

set_option maxRecDepth 100000 in
theorem spaced_dated : Spaced (datedFront ++ datedBack) (datedFront ++ "\n" ++ datedBack) :=
  .between "\n" rfl rfl rfl (by simp [isSpace])

theorem wire_form_tells_operation_lostOperation :
    ofText? lostOperation.wireText = some lostOperation ∧
      ofText? lostText = some lostOperation ∧
      Relation.ReflTransGen WireEdit lostText (datedFront ++ "\n" ++ datedBack) ∧
      ofText? (datedFront ++ "\n" ++ datedBack) = some lostOperation := by
  have read : ofText? lostText = some lostOperation := by
    rw [ofText?, ofText?_of_tokens? tokens?_lostText]
    decide
  have drop : WireEdit lostText zonelessText :=
    .members (ofText?_of_tokens? tokens?_lostText) (.members (@MembersEdit.drop _ _ [] _ _))
      tokens?_zonelessText
  have insert : WireEdit zonelessText (datedFront ++ datedBack) :=
    .members (ofText?_of_tokens? tokens?_zonelessText) (edit_lostMembers _ (by decide))
      tokens?_dated
  have edits := ((Relation.ReflTransGen.single drop).tail insert).tail (.spaced spaced_dated)
  exact ⟨wire_form_tells_operation.1 lostOperation, read, edits,
    wire_form_tells_operation.2.1 lostText _ lostOperation read edits⟩

end Operation

end Scaledown.Compute
