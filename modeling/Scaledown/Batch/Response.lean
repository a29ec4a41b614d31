/-
This file reads the answer to a delete batch.
-/

import Scaledown.Text.Case
import Scaledown.Text.Decimal

namespace Scaledown.Batch

open Text

/-- The answer holds one response for each readable part. -/
structure Response where
  contentId : String
  status : Nat
  body : String
  deriving DecidableEq, Repr

/-- The boundary is a parameter of the content type of a mixed message. -/
def boundaryOf? (contentType : String) : Option String := do
  let (kind, parameters) ← cutFirst? [';'] contentType.toList
  if sameLetters (trim kind) "multipart/mixed".toList then
    let value ← ((cutAll [';'] parameters).map trim).findSome? (dropStart? "boundary=".toList)
    let boundary := trimBy (· == '"') value
    if boundary = [] then none else some (String.ofList boundary)
  else none

/-- The first empty line ends a head, in either style of line ends. -/
def cutHead? (text : List Char) : Option (List Char × List Char) :=
  (cutFirst? "\r\n\r\n".toList text).or (cutFirst? "\n\n".toList text)

/-- The first header line of the name gives the value, and case does not matter. -/
def header? (name : List Char) (headers : List Char) : Option (List Char) :=
  (lines headers).findSome? fun line => do
    let (key, value) ← cutFirst? [':'] line
    if sameLetters (trim key) name then some (trim value) else none

/-- The status is the second word of the first line. -/
def statusOf? (head : List Char) : Option Nat := do
  let line ← (lines head).head?
  let word ← (words line)[1]?
  (decimal maxWord16 word).toOption

/-- An answer names the identifier of its call after a fixed start. -/
def callId (value : List Char) : List Char :=
  let id := trimBy (fun c => c == '<' || c == '>') value
  (dropStart? "response-".toList id).getD id

/-- A part that starts with two dashes closes the answer. -/
def readPart? (raw : List Char) : Option Response := do
  let part := trimStartBy (fun c => c == '\r' || c == '\n') raw
  if part = [] ∨ (dropStart? "--".toList part).isSome then none
  let (headers, http) ← cutHead? part
  let value ← header? "content-id".toList headers
  let (head, body) := (cutHead? http).getD (http, [])
  let status ← statusOf? head
  return ⟨String.ofList (callId value), status, String.ofList (trim body)⟩

/-- Parts that cannot be read are left out. -/
def readResponses (body boundary : String) : List Response :=
  (cutAll ("--".toList ++ boundary.toList) body.toList).filterMap readPart?

end Scaledown.Batch
