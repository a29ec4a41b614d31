/-
This file tells which nodes of exclusive partitions an idle run deletes.
-/

import Scaledown.Proofs.Suspend.Disposition

namespace Scaledown.Suspend

open Compute Deletion

/-- The host lies on this partition, and the partition is exclusive. -/
def OnExclusive (config : Config) (host : String) (partition : Partition) : Prop :=
  config.partition (partitionOf host) = .ok partition ∧ partition.exclusive = true

/-- An idle run does not select the nodes of exclusive partitions. -/
theorem isSelected_idle {config : Config} {host : String} {partition : Partition}
    (exclusive : OnExclusive config host partition) : isSelected config .idle host = false := by
  simp [isSelected, isExclusive, Trigger.isJob, exclusive.1, exclusive.2]

/-- No node of an exclusive partition is submitted, and all are skipped that are no accelerators.
An accelerator with a zone is removed all the same. -/
structure LeavesExclusive (config : Config) (hostlist : String) (events : List Event)
    (result : Except Error Report) : Prop where
  unsubmitted : ∀ host partition, OnExclusive config host partition →
    host ∉ submittedHosts events
  removed : ∀ host partition, OnExclusive config host partition → host ∈ removedHosts events →
    partition.isAccelerator = true ∧ partition.zone.isSome
  reported : ∀ report, result = .ok report → ∃ expanded rest,
    events = .expandHostlist hostlist (.ok expanded) :: rest ∧
      ∀ host ∈ expanded, ∀ partition, OnExclusive config host partition →
        (host ∈ report.skipped ↔ partition.isAccelerator = false) ∧
          (host ∈ removedHosts events ↔ partition.isAccelerator = true ∧ partition.zone.isSome)

/-- The stages of an idle run leave the nodes of exclusive partitions. -/
theorem Stages.leavesExclusive {config : Config} {hostlist : String} {expanded : List String}
    (stages : Stages config ⟨hostlist, .idle⟩ (Suspend.distinct expanded)) :
    LeavesExclusive config hostlist (.expandHostlist hostlist (.ok expanded) :: stages.events)
      (.ok stages.report) := by
  have removedHosts_eq :
      removedHosts (.expandHostlist hostlist (.ok expanded) :: stages.events) =
        removedHosts stages.events := rfl
  have zoned {host : String} {partition : Partition}
      (exclusive : OnExclusive config host partition) :
      (∃ zone, wayOf config host = .accelerator zone) ↔
        partition.isAccelerator = true ∧ partition.zone.isSome := by
    simp only [wayOf_eq_accelerator_iff exclusive.1, exists_and_left, Option.isSome_iff_exists]
  refine ⟨fun host partition exclusive submitted => ?_,
    fun host partition exclusive removed => ?_, ?_⟩
  · have inside : host ∈ submittedHosts stages.events := submitted
    have selected := (stages.wayOf_of_submitted inside).2
    rw [isSelected_idle exclusive] at selected
    cases selected
  · rw [removedHosts_eq, stages.mem_removedHosts_iff] at removed
    exact (zoned exclusive).1 removed.2
  · rintro report same
    obtain rfl := Except.ok.inj same
    refine ⟨expanded, stages.events, rfl, fun host inside partition exclusive => ⟨?_, ?_⟩⟩
    · rw [stages.mem_skipped_iff, wayOf_eq_standard_iff exclusive.1, isSelected_idle exclusive,
        mem_distinct]
      simp [inside]
    · rw [removedHosts_eq, stages.mem_removedHosts_iff, zoned exclusive, mem_distinct]
      simp [inside]

variable {World : Type}

/-- Idle runs leave the nodes of exclusive partitions to their jobs, except for accelerators. -/
theorem idle_run_leaves_exclusive_nodes (collaborators : Collaborators World) (config : Config)
    (hostlist : String) (world : World) :
    HoldsThroughout collaborators config ⟨hostlist, .idle⟩ world
      (LeavesExclusive config hostlist) := by
  refine .of_ending fun events result ending => ?_
  cases ending with
  | unconfigured | unexpanded =>
    refine ⟨?_, ?_, ?_⟩ <;> simp [submittedHosts, removedHosts, Event.submitted, Event.removed?]
  | epilog expanded handled => cases handled
  | finished expanded unhandled stages => exact stages.leavesExclusive

/-- One of the exclusive partitions holds accelerators. -/
def gemPartitions : Config :=
  { fourPartitions with
    partitions := fourPartitions.partitions ++ [("gem",
      { Partition.empty with
        zone := some "us-a", acceleratorType := some "v4", exclusive := true })] }

def gemWorld : Simulation.World :=
  { mixedWorld with scheduler := ⟨some ["own-0", "gem-0", "fixed-0"], none, []⟩ }

theorem idle_run_leaves_exclusive_nodes_gemWorld :
    ∃ report last, run Simulation.collaborators gemPartitions 5 ⟨"nodes", .idle⟩
        (.start gemWorld) = some (.ok report, last) ∧
      report.skipped = ["own-0"] ∧ removedHosts last.events = ["gem-0"] ∧
      LeavesExclusive gemPartitions "nodes" last.events (.ok report) := by
  have read : readRun? (fun report events => (report.skipped, removedHosts events))
      (run Simulation.collaborators gemPartitions 5 ⟨"nodes", .idle⟩ (.start gemWorld)) =
        some (["own-0"], ["gem-0"]) := by
    decide +kernel
  obtain ⟨report, last, done, same⟩ := exists_of_readRun? read
  obtain ⟨skipped, removed⟩ := Prod.mk.inj same
  exact ⟨report, last, done, skipped, removed,
    (idle_run_leaves_exclusive_nodes Simulation.collaborators gemPartitions "nodes"
      gemWorld).ended 5 _ last done⟩

/-- An idle run can delete a node of an exclusive partition and not report it as skipped. -/
theorem exclusive_accelerator_is_deleted :
    ∃ report last, run Simulation.collaborators gemPartitions 5 ⟨"nodes", .idle⟩
        (.start gemWorld) = some (.ok report, last) ∧
      (∃ partition, OnExclusive gemPartitions "gem-0" partition) ∧
      "gem-0" ∈ removedHosts last.events ∧ "gem-0" ∉ report.skipped := by
  have read : readRun? (fun report events => (removedHosts events, report.skipped))
      (run Simulation.collaborators gemPartitions 5 ⟨"nodes", .idle⟩ (.start gemWorld)) =
        some (["gem-0"], ["own-0"]) := by
    decide +kernel
  obtain ⟨report, last, done, same⟩ := exists_of_readRun? read
  obtain ⟨removed, skipped⟩ := Prod.mk.inj same
  exact ⟨report, last, done, ⟨_, rfl, rfl⟩, by simp [removed], by simp [skipped]⟩

end Scaledown.Suspend
