/-
This file holds the long-running operations of the provider and their wire form.
-/

import Scaledown.Json.Record
import Scaledown.Json.Writer
import Scaledown.Node

namespace Scaledown.Compute

inductive OperationStatus where
  | pending
  | running
  | done
  deriving DecidableEq, Repr

namespace OperationStatus

/-- The wire form writes a status in capitals. -/
def wireName : OperationStatus → String
  | pending => "PENDING"
  | running => "RUNNING"
  | done => "DONE"

def ofWireName? (name : String) : Option OperationStatus :=
  [pending, running, done].find? fun status => status.wireName == name

end OperationStatus

/-- An error item has a code, a message, both or neither. -/
structure OperationFault where
  code : Option String
  message : Option String
  deriving DecidableEq, Repr

structure Operation where
  name : String
  zone : Option String
  region : Option String
  status : OperationStatus
  targetLink : Option String
  /-- A present list may be empty. -/
  faults : Option (List OperationFault)
  deriving DecidableEq, Repr

namespace OperationFault

def text : OperationFault → String
  | ⟨some code, some message⟩ => code ++ ": " ++ message
  | ⟨none, some message⟩ => message
  | ⟨some code, none⟩ => code
  | ⟨none, none⟩ => "unknown error"

def ofJson? (json : Json) : Option OperationFault := do
  let record ← json.record? ["code", "message"]
  let code ← record.withDefault "code" none (Json.optional? Json.text?)
  let message ← record.withDefault "message" none (Json.optional? Json.text?)
  return ⟨code, message⟩

def toJson (fault : OperationFault) : Json :=
  .object [(some "code", .ofOption .ofString fault.code),
    (some "message", .ofOption .ofString fault.message)]

end OperationFault

namespace Operation

/-- A fresh operation of the given name is pending. -/
def pending (name : String) : Operation :=
  ⟨name, none, none, .pending, none, none⟩

def isDone (operation : Operation) : Bool :=
  operation.status == .done

def zoneName? (operation : Operation) : Option String :=
  operation.zone.map lastSegment

def regionName? (operation : Operation) : Option String :=
  operation.region.map lastSegment

/-- The error items are joined in order, and an empty list is no error. -/
def errorMessage? (operation : Operation) : Option String :=
  match operation.faults with
  | none => none
  | some [] => none
  | some faults => some (String.intercalate "; " (faults.map OperationFault.text))

/-- The error member holds the list of items under a key of its own. -/
def faultsOfJson? (json : Json) : Option (List OperationFault) := do
  let record ← json.record? ["errors"]
  record.withDefault "errors" [] (Json.array? OperationFault.ofJson?)

def statusOfJson? (json : Json) : Option OperationStatus := do
  OperationStatus.ofWireName? (← json.name?)

/-- Every field but the name has a default. -/
def ofJson? (json : Json) : Option Operation := do
  let record ← json.record? ["name", "zone", "region", "status", "targetLink", "error"]
  let name ← record.required "name" Json.text?
  let zone ← record.withDefault "zone" none (Json.optional? Json.text?)
  let region ← record.withDefault "region" none (Json.optional? Json.text?)
  let status ← record.withDefault "status" .pending statusOfJson?
  let targetLink ← record.withDefault "targetLink" none (Json.optional? Json.text?)
  let faults ← record.withDefault "error" none (Json.optional? faultsOfJson?)
  return ⟨name, zone, region, status, targetLink, faults⟩

def ofText? (text : String) : Option Operation := do
  ofJson? (← Json.ofText? text)

def faultsToJson (faults : List OperationFault) : Json :=
  .object [(some "errors", .array (faults.map OperationFault.toJson))]

/-- The wire form has all fields. -/
def toJson (operation : Operation) : Json :=
  .object [(some "name", .ofString operation.name),
    (some "zone", .ofOption .ofString operation.zone),
    (some "region", .ofOption .ofString operation.region),
    (some "status", .ofString operation.status.wireName),
    (some "targetLink", .ofOption .ofString operation.targetLink),
    (some "error", .ofOption faultsToJson operation.faults)]

def wireText (operation : Operation) : String :=
  operation.toJson.text

end Operation

end Scaledown.Compute
