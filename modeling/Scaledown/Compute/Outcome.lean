/-
This file holds delete requests and their outcomes.
-/

import Scaledown.Compute.Error
import Scaledown.Compute.Operation
import Scaledown.Table

namespace Scaledown.Compute

/-- A request asks for the deletion of one node in a zone. -/
structure DeleteRequest where
  hostname : String
  zone : String
  deriving DecidableEq, Repr

/-- An accepted deletion is tracked by an operation, and a throttled one is worth a retry. -/
inductive Outcome where
  | accepted (operation : Operation)
  | throttled (message : String)
  | failed (message : String)
  deriving DecidableEq, Repr

/-- The message of a rejection decides whether the request is throttled. -/
def Outcome.ofRejection (message : String) : Outcome :=
  if isThrottling message then .throttled message else .failed message

/-- The outcomes of a batch are keyed by hostname. -/
abbrev BatchOutcome := Table Outcome

end Scaledown.Compute
