/-
This file runs one suspend, from the hostlist to the placement groups.
-/

import Scaledown.Accelerator.Deletion
import Scaledown.Deletion.Drain
import Scaledown.Deletion.Selection
import Scaledown.Location
import Scaledown.Placement.Cleanup
import Scaledown.Suspend.Report

namespace Scaledown.Suspend

open Compute

/-- A run is asked for by a hostlist expression and its cause. -/
structure Request where
  hostlist : String
  trigger : Trigger
  deriving DecidableEq, Repr

/-- Repeated hosts are dropped, and the first place of each host is kept. -/
def distinct : List String → List String
  | [] => []
  | host :: hosts => host :: (distinct hosts).filter (· != host)

/-- The epilog handles a job whose first node lies on a known partition that is not exclusive. -/
def epilogHandles (config : Config) (hostnames : List String) (trigger : Trigger) : Bool :=
  trigger.isJob &&
    match hostnames with
    | [] => false
    | first :: _ =>
      match config.partition (partitionOf first) with
      | .ok partition => !partition.exclusive
      | .error _ => false

/-- Nodes go down the accelerator path or the batched path, or they cannot be classified. -/
structure Classes where
  accelerators : List (String × String)
  standard : List String
  failed : Table String
  deriving DecidableEq, Repr

namespace Classes

def empty : Classes := ⟨[], [], []⟩

def add (config : Config) (classes : Classes) (hostname : String) : Classes :=
  match config.partition (partitionOf hostname) with
  | .error error => { classes with failed := classes.failed.put hostname error.message }
  | .ok partition =>
    if partition.isAccelerator then
      match partition.zone with
      | some zone => { classes with accelerators := classes.accelerators ++ [(hostname, zone)] }
      | none =>
        { classes with
          failed := classes.failed.put hostname "accelerator partition has no zone" }
    else { classes with standard := classes.standard ++ [hostname] }

end Classes

def classify (config : Config) (hostnames : List String) : Classes :=
  hostnames.foldl (Classes.add config) .empty

/-- The located nodes are ready for deletion, gone already or without a known place. -/
structure Located where
  requests : List DeleteRequest
  absent : List String
  failed : Table String
  deriving DecidableEq, Repr

def Located.empty : Located := ⟨[], [], []⟩

def Located.add (located : Located) (hostname : String) :
    Except Suspend.Error Location → Located
  | .ok (.inZone zone) => { located with requests := located.requests ++ [⟨hostname, zone⟩] }
  | .ok .absent => { located with absent := located.absent ++ [hostname] }
  | .error error => { located with failed := located.failed.put hostname error.message }

variable {World : Type} (collaborators : Collaborators World)

/-- This step finds the zones of the nodes in order. -/
def locateAll (config : Config) :
    List String → Location.Inventories → Located → Step World Located
  | [], _, located => return located
  | hostname :: rest, known, located => do
    let (result, known) ← Location.resolve collaborators config hostname known
    locateAll config rest known (located.add hostname result)

/-- Nodes whose accelerator is deleted come back one after another. -/
def readmitAll : List String → List String → Scheduler.NodeStates →
    Step World (List String × Scheduler.NodeStates)
  | [], readmitted, states => return (readmitted, states)
  | hostname :: rest, readmitted, states => do
    let (resumed, states) ← Scheduler.NodeStates.readmit collaborators hostname states
    readmitAll rest (if resumed then readmitted ++ [hostname] else readmitted) states

/-- The placement groups of a job belong to the partition of its first node. -/
def cleanPlacement (config : Config) (interval : Duration) (patience : Nat) (trigger : Trigger)
    (hostnames : List String) : Step World Placement.Report :=
  match trigger.job?, hostnames with
  | some job, first :: _ =>
    match config.partition (partitionOf first) with
    | .error _ => return .empty
    | .ok partition =>
      if Placement.needsCleanup (.jobCompletion job) config partition hostnames.length then
        match partition.effectiveRegion? with
        | none => return .empty
        | some region =>
          Placement.cleanup collaborators interval patience region
            (Placement.groupNames config.clusterName job hostnames.length
              config.suspend.placementMaxMembers)
      else return .empty
  | _, _ => return .empty

/-- This step deletes the nodes and brings back those whose deletion is confirmed. -/
def decommission (config : Config) (pause interval : Duration) (patience : Nat)
    (request : Request) (hostnames : List String) : Step World Report := do
  let states ← Scheduler.NodeStates.takeOffline collaborators request.hostlist hostnames
    request.trigger .initial
  let classes := classify config hostnames
  let accelerated ← Accelerator.deleteAll collaborators classes.accelerators .empty
  let (selected, skipped) := Deletion.select config request.trigger classes.standard
  let located ← locateAll collaborators config selected [] .empty
  let deletion ← Deletion.drain collaborators ⟨config.suspend.maxBatchRequests, pause⟩ patience
    located.requests
  let (settled, states) ← Waiting.confirmAndReadmit collaborators interval patience
    deletion.operations .empty states
  let (readmitted, states) ←
    readmitAll collaborators accelerated.deleted settled.readmitted states
  let placement ← cleanPlacement collaborators config interval patience request.trigger hostnames
  return {
    nodes := hostnames.length
    skippedByEpilog := false
    batched := located.requests.length
    accelerator := classes.accelerators.length
    deleted := settled.confirmed ++ accelerated.deleted
    readmitted := readmitted
    absent := located.absent
    skipped := skipped
    failed := classes.failed.putAll
      (accelerated.failed ++ located.failed ++ deletion.failed ++ settled.failed)
    retryRounds := deletion.rounds - 1
    batchSizes := deletion.batchSizes
    placementDeleted := placement.deleted
    placementFailed := placement.failed
    transitions := states.history }

/-- Only the durations of the configuration and the expansion of the hostlist can end a run
early. -/
def run (config : Config) (patience : Nat) (request : Request) :
    Step World (Except Error Report) :=
  match config.batchPause, config.operationPollInterval with
  | .error error, _ => return .error (.config error)
  | .ok _, .error error => return .error (.config error)
  | .ok pause, .ok interval => do
    match ← collaborators.expandHostlist request.hostlist with
    | .error error => return .error (.scheduler error)
    | .ok expanded =>
      let hostnames := distinct expanded
      if epilogHandles config hostnames request.trigger then
        return .ok { Report.ofNodes hostnames.length with skippedByEpilog := true }
      else
        return .ok
          (← decommission collaborators config pause interval patience request hostnames)

end Scaledown.Suspend
