/-
This file reads the answers of the provider.
-/

import Scaledown.Batch.Response
import Scaledown.Compute.Outcome
import Scaledown.Http.Message
import Scaledown.Text.Utf8

namespace Scaledown.Compute

/-- The body of a rejection holds the message under two keys. -/
def messageOfJson? (json : Json) : Option String := do
  let record ← json.record? ["error"]
  record.required "error" fun error => do
    let detail ← error.record? ["message"]
    detail.withDefault "message" "" Json.text?

/-- A body without a message of its own is the message. -/
def rejectionMessage (body : String) : String :=
  match (Json.ofText? body).bind messageOfJson? with
  | none => String.ofList (Text.trim body.toList)
  | some message =>
    if message = "" then String.ofList (Text.trim body.toList) else message

/-- A body that cannot be read counts as empty. -/
def rejection (response : Http.Response) : Compute.Error :=
  .rejected response.status
    (rejectionMessage ((response.body.map Text.ofBytesLossy).getD ""))

/-- A successful answer holds one JSON value. -/
def readAnswer {α : Type} (read : Json → Option α) (response : Http.Response) :
    Except Compute.Error α :=
  if !response.succeeded then .error (rejection response)
  else
    match ((response.body.bind Text.ofBytes?).bind Json.ofText?).bind read with
    | some value => .ok value
    | none => .error (.undecodable Http.Fault.unreadable.message)

/-- A part of a batch answer tells whether one deletion is accepted. The words of the JSON reader
about an operation that it cannot read are left out of the failure. -/
def outcomeOf (part : Batch.Response) : Outcome :=
  if 200 ≤ part.status ∧ part.status < 300 then
    match Operation.ofText? part.body with
    | some operation => .accepted operation
    | none => .failed "undecodable operation"
  else if part.status = 429 then .throttled (rejectionMessage part.body)
  else .ofRejection (rejectionMessage part.body)

def outcomesOf (body boundary : String) : BatchOutcome :=
  Table.putAll [] ((Batch.readResponses body boundary).map fun part =>
    (part.contentId, outcomeOf part))

/-- A content type with other than visible ASCII characters and tabs is not read. -/
def boundaryOfAnswer? (response : Http.Response) : Option String := do
  let kind ← response.contentType
  if kind.toList.all fun c => (0x20 ≤ c.toNat && c.toNat < 0x7F) || c == '\t' then
    Batch.boundaryOf? kind
  else none

/-- A batch answer is a mixed message with one part for each deletion. -/
def readBatch (response : Http.Response) : Except Compute.Error BatchOutcome :=
  if !response.succeeded then .error (rejection response)
  else
    match boundaryOfAnswer? response, response.body with
    | none, _ => .error (.undecodable "batch response is not multipart/mixed")
    | some _, none => .error (.transport Http.Fault.unreadable.message)
    | some boundary, some body => .ok (outcomesOf (Text.ofBytesLossy body) boundary)

end Scaledown.Compute
