/-
This file chooses the nodes that a run deletes.
-/

import Scaledown.Config.Basic
import Scaledown.Trigger

namespace Scaledown.Deletion

/-- A partition without a definition is not exclusive. -/
def isExclusive (config : Config) (hostname : String) : Bool :=
  match config.partition (partitionOf hostname) with
  | .ok partition => partition.exclusive
  | .error _ => false

/-- Exclusive nodes are deleted only when their job has ended. -/
def isSelected (config : Config) (trigger : Trigger) (hostname : String) : Bool :=
  trigger.isJob || !isExclusive config hostname

/-- The first list is to be deleted, and the second is left alone. -/
def select (config : Config) (trigger : Trigger) (hostnames : List String) :
    List String × List String :=
  hostnames.partition (isSelected config trigger)

end Scaledown.Deletion
