/-
This file tells when the placement groups of a job are deleted.
-/

import Scaledown.Proofs.Suspend.Failure

namespace Scaledown

/-- A call that deletes a placement group names it. -/
def Event.group? : Event → Option String
  | .deleteResourcePolicy _ name _ => some name
  | _ => none

namespace Suspend

open Compute Deletion Scheduler Waiting

/-- The report tells what became of a node, and these calls and the configuration bear it out. -/
inductive SettledBy (config : Config) (report : Report) (calls : List Event) (host : String) :
    Prop where
  | deleted {earlier : List Event} (reported : host ∈ report.deleted) (gone : Gone earlier host)
      (former : earlier <+: calls)
  | absent {region : String} {listed : List Instance} (reported : host ∈ report.absent)
      (answered : .listInstances region (partitionOf host) (.ok listed) ∈ calls)
      (unlisted : ∀ found ∈ listed, found.name ≠ host)
  | failed {reason : String} (reported : (host, reason) ∈ report.failed)
      (caused : Misconfigured config host reason ∨ FailedBy calls host reason)

/-- What became of a node stays the same when more calls are made. -/
theorem SettledBy.mono {config : Config} {report : Report} {calls later : List Event}
    {host : String} (settled : SettledBy config report calls host) (within : calls <+: later) :
    SettledBy config report later host := by
  cases settled with
  | deleted reported gone former => exact .deleted reported gone (former.trans within)
  | absent reported answered unlisted =>
    exact .absent reported (within.subset answered) unlisted
  | failed reported caused => exact .failed reported (caused.imp_right fun failed => failed.mono within)

namespace Stages

variable {config : Config} {request : Request} {hostnames : List String}
  (stages : Stages config request hostnames)

/-- No placement group is deleted before the calls for the nodes have ended. -/
theorem group?_of_mem_nodeCalls : ∀ event ∈ stages.nodeCalls, event.group? = none := by
  intro event inside
  simp only [nodeCalls, opening, List.mem_append, List.mem_map, List.mem_flatMap] at inside
  rcases inside with ((((ordered | ⟨removal, -, rfl⟩) | ⟨listing, -, rfl⟩) |
    ⟨submission, -, rfl⟩) | ⟨confirmation, -, confirming⟩) | ⟨resumption, -, resuming⟩
  · obtain ⟨target, reason, answer, -, rfl⟩ := target_of_mem_offlineOrders ordered
    rfl
  · rfl
  · rfl
  · rfl
  · rcases Confirmation.mem_events.1 confirming with ⟨poll, -, rfl⟩ | resuming
    · rfl
    · obtain ⟨answer, -, rfl⟩ := Resumption.mem_events.1 resuming
      rfl
  · obtain ⟨answer, -, rfl⟩ := Resumption.mem_events.1 resuming
    rfl

/-- A deleted node has left before the placement groups are deleted. -/
theorem settledBy_of_deleted {host : String} (reported : host ∈ stages.report.deleted) :
    SettledBy config stages.report stages.nodeCalls host := by
  rcases List.mem_append.1 reported with confirmed | removed
  · obtain ⟨confirmation, inside, found⟩ := List.mem_filterMap.1 confirmed
    obtain ⟨rfl, final, ended⟩ := Confirmation.confirmed?_eq_some.1 found
    obtain ⟨later, former⟩ := polls_prefix inside
    have gone : Gone ([] ++ stages.opening ++ later ++ confirmation.polls.map Poll.event)
        confirmation.hostname := gone_of_confirmed inside ended
    exact .deleted reported gone former
  · have gone : Gone ([] ++ stages.opening ++ []) host := gone_of_deleted removed
    rw [List.nil_append, List.append_nil] at gone
    exact .deleted reported gone stages.opening_prefix

/-- An absent node is not listed in its partition. -/
theorem settledBy_of_absent {host : String} (reported : host ∈ stages.report.absent) :
    SettledBy config stages.report stages.nodeCalls host := by
  obtain ⟨sighting, inside, found⟩ := List.mem_filterMap.1 reported
  obtain rfl := Sighting.absent?_eq_some.1 found
  have located : Location.located? config stages.inventories host = some (.ok .absent) :=
    stages.located (host, .ok .absent) inside
  rcases stages.learned.fixed_or_listed located with site | ⟨listing, listed, same, missing⟩
  · exact absurd site Location.siteOf_ne_absent
  · obtain ⟨instances, answered, unlisted⟩ := Location.inInventory_eq_absent_iff.1 missing
    have called := mem_nodeCalls_of_listing listed
    rw [Location.Listing.event, answered, same] at called
    exact .absent reported called unlisted

/-- The nodes that are selected have settled before the placement groups are deleted. -/
theorem settledBy_of_isSelected {host : String} (inside : host ∈ hostnames)
    (selected : isSelected config request.trigger host = true) :
    SettledBy config stages.report stages.nodeCalls host := by
  have placed := stages.divide.symm.subset inside
  simp only [List.mem_append] at placed
  rcases placed with ((deleted | failed) | absent) | skipped
  · exact stages.settledBy_of_deleted deleted
  · obtain ⟨⟨name, reason⟩, reported, rfl⟩ := List.mem_map.1 failed
    exact .failed reported (cause_of_failed reported)
  · exact stages.settledBy_of_absent absent
  · have left := (stages.mem_skipped_iff.1 skipped).2.2
    rw [selected] at left
    cases left

/-- A cut before the deletion of a placement group has all calls for the nodes before it. -/
theorem nodeCalls_prefix_of_group {before after : List Event} {event : Event}
    (cut : stages.events = before ++ event :: after) (group : event.group?.isSome) :
    stages.nodeCalls <+: before ∧ ∀ other ∈ after, Placement.IsGroupCall other := by
  rw [events_eq_nodeCalls_append] at cut
  have grouped := stages.grouped
  -- The cut cannot fall within the calls for the nodes, since none of them names a group.
  rcases List.append_eq_append_iff.1 cut with ⟨between, rfl, rest⟩ | ⟨between, former, rest⟩
  · rw [rest] at grouped
    refine ⟨List.prefix_append _ _, fun other inside => grouped other ?_⟩
    exact List.mem_append_right _ (List.mem_cons_of_mem _ inside)
  · cases between with
    | nil =>
      rw [List.append_nil] at former
      rw [List.nil_append] at rest
      rw [← rest] at grouped
      exact ⟨former ▸ List.prefix_rfl, (List.forall_mem_cons.1 grouped).2⟩
    | cons first between =>
      obtain ⟨rfl, -⟩ := List.cons_eq_cons.1 rest
      have none := stages.group?_of_mem_nodeCalls event (by simp [former])
      rw [none] at group
      cases group

end Stages

/-- The placement groups are deleted last, and only after all nodes have settled. -/
structure CleansUpLast (config : Config) (hostlist : String) (events : List Event)
    (result : Except Error Report) : Prop where
  refused : ∀ error, result = .error error → ∀ event ∈ events, event.group? = none
  settled : ∀ report, result = .ok report → ∃ expanded rest,
    events = .expandHostlist hostlist (.ok expanded) :: rest ∧
      ∀ before region name answer after,
        rest = before ++ .deleteResourcePolicy region name answer :: after →
          (∀ host ∈ expanded, SettledBy config report before host) ∧
            ∀ event ∈ after, Placement.IsGroupCall event

variable {World : Type}

/-- Every run for a job deletes its placement groups after all of its nodes have settled. -/
theorem job_run_cleans_up_last (collaborators : Collaborators World) (config : Config)
    (hostlist : String) (job : Nat) (world : World) :
    HoldsThroughout collaborators config ⟨hostlist, .jobCompletion job⟩ world
      (CleansUpLast config hostlist) := by
  refine .of_ending fun events result ending => ?_
  cases ending with
  | unconfigured | unexpanded => exact ⟨by simp [Event.group?], by rintro report ⟨⟩⟩
  | epilog expanded handled =>
    refine ⟨by rintro error ⟨⟩, fun report same => ⟨expanded, [], rfl, ?_⟩⟩
    intro before region name answer after cut
    simp at cut
  | finished expanded unhandled stages =>
    refine ⟨by rintro error ⟨⟩, fun report same => ⟨expanded, stages.events, rfl, ?_⟩⟩
    obtain rfl := Except.ok.inj same
    intro before region name answer after cut
    obtain ⟨former, last⟩ := stages.nodeCalls_prefix_of_group cut rfl
    refine ⟨fun host inside => ?_, last⟩
    -- Every node is selected for deletion when a job has ended.
    exact (stages.settledBy_of_isSelected ((mem_distinct _ _).2 inside) rfl).mono former

/-- The nodes of this partition are placed in groups. -/
def groupedPartition : Config :=
  { fourPartitions with
    partitions := [("own",
      { Partition.empty with
        zone := some "us-a", exclusive := true, enablePlacement := true,
        machineType := some "c2-standard-60" })] }

/-- One of the two nodes cannot be deleted. -/
def stuckWorld : Simulation.World where
  provider := ⟨[], [("own-1", [.outcome (.failed "resource is in use")])], [], [], []⟩
  scheduler := ⟨some ["own-0", "own-1"], none, []⟩
  accelerator := []

theorem job_run_cleans_up_last_stuckWorld :
    ∃ report last, run Simulation.collaborators groupedPartition 5 ⟨"nodes", .jobCompletion 7⟩
        (.start stuckWorld) = some (.ok report, last) ∧
      last.events.filterMap Event.group? = ["cluster-7-1"] ∧
      CleansUpLast groupedPartition "nodes" last.events (.ok report) := by
  have read : readRun? (fun _ events => events.filterMap Event.group?)
      (run Simulation.collaborators groupedPartition 5 ⟨"nodes", .jobCompletion 7⟩
        (.start stuckWorld)) = some ["cluster-7-1"] := by
    decide +kernel
  obtain ⟨report, last, done, groups⟩ := exists_of_readRun? read
  exact ⟨report, last, done, groups,
    (job_run_cleans_up_last Simulation.collaborators groupedPartition "nodes" 7
      stuckWorld).ended 5 _ last done⟩

/-- A run for a job can delete the placement group of a node that is still there. -/
theorem group_of_failed_node_is_deleted :
    ∃ report last, run Simulation.collaborators groupedPartition 5 ⟨"nodes", .jobCompletion 7⟩
        (.start stuckWorld) = some (.ok report, last) ∧
      (∃ region name answer, .deleteResourcePolicy region name answer ∈ last.events) ∧
      "own-1" ∈ report.failed.keys ∧ "own-1" ∉ report.deleted ∧ "own-1" ∉ report.absent := by
  have read : readRun? (fun report events =>
      (events.filterMap Event.group?, report.failed.keys, report.deleted, report.absent))
      (run Simulation.collaborators groupedPartition 5 ⟨"nodes", .jobCompletion 7⟩
        (.start stuckWorld)) = some (["cluster-7-1"], ["own-1"], ["own-0"], []) := by
    decide +kernel
  obtain ⟨report, last, done, same⟩ := exists_of_readRun? read
  obtain ⟨groups, failed, deleted, absent⟩ : last.events.filterMap Event.group? =
      ["cluster-7-1"] ∧ report.failed.keys = ["own-1"] ∧ report.deleted = ["own-0"] ∧
      report.absent = [] := by
    simpa using same
  have named : "cluster-7-1" ∈ last.events.filterMap Event.group? := by simp [groups]
  obtain ⟨event, called, group⟩ := List.mem_filterMap.1 named
  refine ⟨report, last, done, ?_, by simp [failed], by simp [deleted], by simp [absent]⟩
  cases event with
  | deleteResourcePolicy region name answer => exact ⟨region, name, answer, called⟩
  | _ => cases group

end Suspend

end Scaledown
