/-
This file holds the errors of a suspend run.
-/

import Scaledown.Compute.Error
import Scaledown.Config.Basic
import Scaledown.Scheduler.Basic

namespace Scaledown.Suspend

/-- An error ends a run or leaves one node, batch, operation or group unfinished. -/
inductive Error where
  | config (error : Config.Error)
  | scheduler (error : Scheduler.Error)
  | compute (error : Compute.Error)
  | lookup (partition message : String)
  | operationFailed (name message : String)
  | accelerator (node message : String)
  deriving DecidableEq, Repr

namespace Error

def message : Error → String
  | config error => "config error: " ++ error.message
  | scheduler error => "scheduler error: " ++ error.message
  | compute error => "compute error: " ++ error.message
  | lookup partition message =>
    "inventory lookup for partition " ++ partition ++ " failed: " ++ message
  | operationFailed name message => "operation " ++ name ++ " failed: " ++ message
  | accelerator node message => "accelerator delete of " ++ node ++ " failed: " ++ message

/-- The causes go from the wrapped error to the answer of the system. -/
def causes : Error → List String
  | config error => error.message :: error.causes
  | scheduler error => error.message :: error.causes
  | compute error => [error.message]
  | lookup _ _ => []
  | operationFailed _ _ => []
  | accelerator _ _ => []

end Error

end Scaledown.Suspend
