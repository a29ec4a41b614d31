/-
This file holds the errors of whole provider calls.
-/

import Scaledown.Compute.Throttling

namespace Scaledown.Compute

/-- A provider call fails as a whole for one of these causes. -/
inductive Error where
  | transport (detail : String)
  | rejected (status : Nat) (message : String)
  | unauthorized (detail : String)
  | undecodable (detail : String)
  deriving DecidableEq, Repr

namespace Error

def message : Error → String
  | transport detail => "http transport error: " ++ detail
  | rejected status message =>
    "compute api returned " ++ Nat.repr status ++ ": " ++ message
  | unauthorized detail => "failed to obtain access token: " ++ detail
  | undecodable detail => "failed to decode response: " ++ detail

/-- The classification reads the whole message. -/
def isThrottling (error : Error) : Bool :=
  Compute.isThrottling error.message

end Error

end Scaledown.Compute
