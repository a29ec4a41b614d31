/-
This file holds what a run asks of the scheduler.
-/

namespace Scaledown.Scheduler

/-- The scheduler moves nodes to one of these states. -/
inductive Target where
  | down
  | powerDown
  | resume
  deriving DecidableEq, Repr

/-- The word names the state in a scheduler command. -/
def Target.word : Target → String
  | down => "down"
  | powerDown => "power_down"
  | resume => "resume"

/-- A scheduler command fails for one of these causes. -/
inductive Error where
  | notStarted (command detail : String)
  | exited (command status stderr : String)
  | emptyHostlist (expression : String)
  deriving DecidableEq, Repr

namespace Error

def message : Error → String
  | notStarted command detail => "failed to spawn " ++ command ++ ": " ++ detail
  | exited command status stderr => command ++ " exited with " ++ status ++ ": " ++ stderr
  | emptyHostlist expression => "hostlist expression expanded to no hosts: " ++ expression

/-- The deeper cause of a command that did not start is the answer of the system. -/
def causes : Error → List String
  | notStarted _ detail => [detail]
  | _ => []

end Error

end Scaledown.Scheduler
