/-
This file writes the body of a delete batch.
-/

namespace Scaledown.Batch

/-- This text separates the parts of an outgoing batch. -/
def outgoingBoundary : String := "reaper_delete_batch"

/-- A delete call inside a batch has an identifier and the path of its instance. -/
structure Call where
  id : String
  path : String
  deriving DecidableEq, Repr

/-- A part names its call in a header line and asks for the deletion in a request line. -/
def Call.render (call : Call) : String :=
  "--" ++ outgoingBoundary ++ "\r\n" ++
  "Content-Type: application/http\r\n" ++
  "Content-ID: <" ++ call.id ++ ">\r\n" ++
  "\r\n" ++
  "DELETE " ++ call.path ++ " HTTP/1.1\r\n" ++
  "\r\n"

/-- The body closes with the boundary between two dashes on both sides. -/
def renderCalls (calls : List Call) : String :=
  String.join (calls.map Call.render) ++ "--" ++ outgoingBoundary ++ "--\r\n"

end Scaledown.Batch
