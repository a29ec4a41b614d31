/-
This file deletes the placement groups of a finished job.
-/

import Scaledown.Placement.Group
import Scaledown.Trigger
import Scaledown.Waiting

namespace Scaledown.Placement

open Compute

/-- Groups exist for jobs with more than one node on a partition that makes them. -/
def needsCleanup (trigger : Trigger) (config : Config) (partition : Partition) (nodes : Nat) :
    Bool :=
  trigger.isJob && config.placementEnabled partition && decide (1 < nodes)

structure Report where
  deleted : List String
  failed : Table String
  deriving DecidableEq, Repr

def Report.empty : Report := ⟨[], []⟩

variable {World : Type} (collaborators : Collaborators World)

/-- This step asks for the deletion of every group and collects the operations. -/
def deleteGroups (region : String) :
    List String → Report → Step World (List (String × Operation) × Report)
  | [], report => return ([], report)
  | name :: names, report => do
    match ← collaborators.deleteResourcePolicy region name with
    | .ok operation =>
      let (pending, report) ← deleteGroups region names report
      return ((name, operation) :: pending, report)
    | .error error =>
      deleteGroups region names { report with failed := report.failed.put name error.message }

/-- This step waits for the operations in turn. -/
def confirmGroups (interval : Duration) (patience : Nat) :
    List (String × Operation) → Report → Step World Report
  | [], report => return report
  | (name, operation) :: pending, report => do
    match ← Waiting.wait collaborators interval patience operation with
    | .ok _ =>
      confirmGroups interval patience pending { report with deleted := report.deleted ++ [name] }
    | .error error =>
      confirmGroups interval patience pending
        { report with failed := report.failed.put name error.message }

/-- A failure of one group never stops the others. -/
def cleanup (interval : Duration) (patience : Nat) (region : String) (names : List String) :
    Step World Report := do
  let (pending, report) ← deleteGroups collaborators region names .empty
  confirmGroups collaborators interval patience pending report

end Scaledown.Placement
