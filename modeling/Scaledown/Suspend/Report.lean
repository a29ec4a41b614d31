/-
This file tells what a run did, node by node.
-/

import Scaledown.Scheduler.NodeStates

namespace Scaledown.Suspend

structure Report where
  nodes : Nat
  /-- The epilog of the scheduler takes care of a partition that is not exclusive. -/
  skippedByEpilog : Bool
  batched : Nat
  accelerator : Nat
  deleted : List String
  readmitted : List String
  absent : List String
  skipped : List String
  failed : Table String
  /-- It never exceeds the patience of the run, so thirty-two bits hold it where they hold that. -/
  retryRounds : Nat
  batchSizes : List Nat
  placementDeleted : List String
  placementFailed : Table String
  transitions : List Scheduler.Transition
  deriving Repr

/-- A fresh report knows only the number of nodes. -/
def Report.ofNodes (nodes : Nat) : Report :=
  ⟨nodes, false, 0, 0, [], [], [], [], [], 0, [], [], [], []⟩

end Scaledown.Suspend
