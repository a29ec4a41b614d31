/-
This file tells why the nodes of a run fail.
-/

import Scaledown.Proofs.Config.Validation
import Scaledown.Proofs.Suspend.Disposition

namespace Scaledown

open Compute Deletion Scheduler Waiting

/-- The nodes of this partition are accelerators, and it is not known where they are. -/
def Partition.LacksZone (partition : Partition) : Prop :=
  partition.isAccelerator = true ∧ partition.zone = none

namespace Suspend

/-- The configuration alone keeps a node from its deletion. -/
inductive Misconfigured (config : Config) (host : String) : String → Prop where
  | unclassified {reason : String} (way : wayOf config host = .unclassified reason) :
      Misconfigured config host reason
  | unplaced {error : Suspend.Error} (way : wayOf config host = .standard)
      (site : Location.siteOf config host = .fixed (.error error)) :
      Misconfigured config host error.message

/-- The answer to a batch with this host has this outcome for it. -/
def Told (calls : List Event) (host : String) (outcome? : Option Outcome) : Prop :=
  ∃ batch outcomes, .deleteInstances batch (.ok outcomes) ∈ calls ∧ host ∈ hostsOf batch ∧
    outcomes.find? host = outcome?

/-- The operation that was accepted for this host is polled to this result. -/
structure Awaited (calls : List Event) (host : String) (accepted : Operation)
    (polls : List Poll) (result : Except Suspend.Error Operation) : Prop where
  polled : Polled accepted polls result
  told : ∃ earlier, Told earlier host (some (.accepted accepted)) ∧
    earlier ++ polls.map Poll.event <+: calls

/-- These calls were answered in a way that keeps a node from its deletion. -/
inductive FailedBy (calls : List Event) (host : String) : String → Prop where
  | accelerator {zone detail : String}
      (answered : .deleteAccelerator host zone (.error detail) ∈ calls) :
      FailedBy calls host (Suspend.Error.accelerator host detail).message
  | listing {region : String} {error : Compute.Error}
      (answered : .listInstances region (partitionOf host) (.error error) ∈ calls) :
      FailedBy calls host (Suspend.Error.lookup (partitionOf host) error.message).message
  | batch {batch : List DeleteRequest} {error : Compute.Error} (submitted : host ∈ hostsOf batch)
      (answered : .deleteInstances batch (.error error) ∈ calls) :
      FailedBy calls host ("batch submission failed: " ++ error.message)
  | missing (told : Told calls host none) : FailedBy calls host "no outcome returned"
  | refused {message : String} (told : Told calls host (some (.failed message))) :
      FailedBy calls host message
  | wait {accepted : Operation} {polls : List Poll} {poll : Poll} {error : Compute.Error}
      (awaited : Awaited calls host accepted polls (.error (.compute error)))
      (inside : poll ∈ polls) (answered : poll.answer = .error error) :
      FailedBy calls host (Suspend.Error.compute error).message
  | operation {accepted final : Operation} {polls : List Poll} {message : String}
      (awaited : Awaited calls host accepted polls (.error (.operationFailed final.name message)))
      (last : final = accepted ∨ ∃ poll ∈ polls, poll.answer = .ok final)
      (finished : final.isDone = true) (fault : final.errorMessage? = some message) :
      FailedBy calls host (Suspend.Error.operationFailed final.name message).message

theorem Told.mono {calls later : List Event} {host : String} {outcome? : Option Outcome}
    (told : Told calls host outcome?) (within : calls ⊆ later) : Told later host outcome? := by
  obtain ⟨batch, outcomes, answered, submitted, found⟩ := told
  exact ⟨batch, outcomes, within answered, submitted, found⟩

theorem Awaited.mono {calls later : List Event} {host : String} {accepted : Operation}
    {polls : List Poll} {result : Except Suspend.Error Operation}
    (awaited : Awaited calls host accepted polls result) (within : calls <+: later) :
    Awaited later host accepted polls result := by
  obtain ⟨polled, earlier, told, former⟩ := awaited
  exact ⟨polled, earlier, told, former.trans within⟩

theorem Told.submitted {calls : List Event} {host : String} {outcome? : Option Outcome}
    (told : Told calls host outcome?) : host ∈ submittedHosts calls := by
  obtain ⟨batch, outcomes, answered, submitted, -⟩ := told
  exact List.mem_toFinset.2 (List.mem_flatMap.2 ⟨_, answered, submitted⟩)

theorem Awaited.submitted {calls : List Event} {host : String} {accepted : Operation}
    {polls : List Poll} {result : Except Suspend.Error Operation}
    (awaited : Awaited calls host accepted polls result) : host ∈ submittedHosts calls := by
  obtain ⟨-, earlier, told, former⟩ := awaited
  exact (told.mono ((List.prefix_append _ _).trans former).subset).submitted

/-- More calls do not take back what made a node fail. -/
theorem FailedBy.mono {calls later : List Event} {host reason : String}
    (failed : FailedBy calls host reason) (within : calls <+: later) :
    FailedBy later host reason := by
  cases failed with
  | accelerator answered => exact .accelerator (within.subset answered)
  | listing answered => exact .listing (within.subset answered)
  | batch submitted answered => exact .batch submitted (within.subset answered)
  | missing told => exact .missing (told.mono within.subset)
  | refused told => exact .refused (told.mono within.subset)
  | wait awaited inside answered => exact .wait (awaited.mono within) inside answered
  | operation awaited last finished fault =>
    exact .operation (awaited.mono within) last finished fault

/-- A failed wait has an answer that made it fail. -/
theorem Awaited.failedBy {calls : List Event} {host : String} {accepted : Operation}
    {polls : List Poll} {error : Suspend.Error}
    (awaited : Awaited calls host accepted polls (.error error)) :
    FailedBy calls host error.message := by
  rcases awaited.polled.exists_of_error with ⟨poll, inside, reason, answered, rfl⟩ |
    ⟨final, message, last, finished, fault, rfl⟩
  · exact .wait awaited inside answered
  · exact .operation awaited last finished fault

namespace Stages

variable {config : Config} {request : Request} {hostnames : List String}
  (stages : Stages config request hostnames)

/-- These calls come before the placement groups are deleted. -/
def nodeCalls : List Event :=
  stages.opening ++ stages.confirmations.flatMap Confirmation.events ++
    stages.resumptions.flatMap Resumption.events

theorem events_eq_nodeCalls_append : stages.events = stages.nodeCalls ++ stages.groupCalls := rfl

theorem opening_prefix : stages.opening <+: stages.nodeCalls := by
  rw [nodeCalls, List.append_assoc]
  exact List.prefix_append _ _

variable {stages}

theorem mem_nodeCalls_of_removal {removal : Accelerator.Removal}
    (inside : removal ∈ stages.removals) : removal.event ∈ stages.nodeCalls := by
  apply stages.opening_prefix.subset
  simp only [opening, List.mem_append, List.mem_map]
  exact .inl (.inl (.inr ⟨removal, inside, rfl⟩))

theorem mem_nodeCalls_of_listing {listing : Location.Listing}
    (inside : listing ∈ stages.listings) : listing.event ∈ stages.nodeCalls := by
  apply stages.opening_prefix.subset
  simp only [opening, List.mem_append, List.mem_map]
  exact .inl (.inr ⟨listing, inside, rfl⟩)

theorem mem_nodeCalls_of_submission {round : List Submission} {submission : Submission}
    (made : round ∈ stages.rounds) (inside : submission ∈ round) :
    submission.event ∈ stages.nodeCalls := by
  apply stages.opening_prefix.subset
  simp only [opening, List.mem_append, List.mem_map]
  exact .inr ⟨submission, List.mem_flatten.2 ⟨round, made, inside⟩, rfl⟩

/-- The polls of a confirmation follow the opening. -/
theorem polls_prefix {confirmation : Confirmation (poweredDown stages.powerDown request.trigger)}
    (inside : confirmation ∈ stages.confirmations) :
    ∃ later, stages.opening ++ later ++ confirmation.polls.map Poll.event <+:
      stages.nodeCalls := by
  obtain ⟨former, latter, cut⟩ := List.append_of_mem inside
  refine ⟨former.flatMap Confirmation.events, confirmation.resumption.events ++
    latter.flatMap Confirmation.events ++ stages.resumptions.flatMap Resumption.events, ?_⟩
  simp only [nodeCalls, cut, List.flatMap_append, List.flatMap_cons, Confirmation.events,
    List.append_assoc]

theorem awaited_of_confirmation
    {confirmation : Confirmation (poweredDown stages.powerDown request.trigger)}
    (inside : confirmation ∈ stages.confirmations) :
    Awaited stages.nodeCalls confirmation.hostname confirmation.operation confirmation.polls
      confirmation.result := by
  obtain ⟨batch, outcomes, answered, submitted, found⟩ := exists_of_confirmation inside
  obtain ⟨later, former⟩ := polls_prefix inside
  exact ⟨confirmation.polled, _,
    ⟨batch, outcomes, List.mem_append_left _ answered, submitted, found⟩, former⟩

/-- A node that was not found has no place in the configuration, or its partition could not be
listed. -/
theorem cause_of_lost {host : String} {error : Suspend.Error}
    (inside : (host, .error error) ∈ stages.sightings) :
    Misconfigured config host error.message ∨
      FailedBy stages.nodeCalls host error.message := by
  have way : wayOf config host = .standard := (stages.wayOf_sighting inside).1
  have located : Location.located? config stages.inventories host = some (.error error) :=
    stages.located (host, .error error) inside
  rcases stages.learned.fixed_or_listed located with site | ⟨listing, listed, same, missed⟩
  · exact .inl (.unplaced way site)
  · obtain ⟨reason, answered, rfl⟩ := Location.inInventory_eq_error missed
    have called := mem_nodeCalls_of_listing listed
    rw [Location.Listing.event, answered, same] at called
    exact .inr (.listing called)

/-- Every failure comes from the configuration or from an answer. -/
theorem cause_of_failed {host reason : String} (inside : (host, reason) ∈ stages.report.failed) :
    Misconfigured config host reason ∨ FailedBy stages.nodeCalls host reason := by
  simp only [report, List.mem_append] at inside
  -- Only the first and the third of the stages that fail nodes can do so without an answer.
  rcases inside with unclassified | ((removed | lost) | drained) | confirmed
  · obtain ⟨hostname, -, found⟩ := List.mem_filterMap.1 unclassified
    obtain ⟨rfl, way⟩ := unclassified?_eq_some.1 found
    exact .inl (.unclassified way)
  · obtain ⟨removal, present, found⟩ := List.mem_filterMap.1 removed
    obtain ⟨detail, answered, same⟩ := Accelerator.Removal.failed?_eq_some.1 found
    obtain ⟨rfl, rfl⟩ := Prod.mk.inj same
    have called := mem_nodeCalls_of_removal present
    rw [Accelerator.Removal.event, answered] at called
    exact .inr (.accelerator called)
  · obtain ⟨sighting, present, found⟩ := List.mem_filterMap.1 lost
    obtain ⟨error, rfl, rfl⟩ := Sighting.lost?_eq_some.1 found
    exact cause_of_lost present
  · obtain ⟨round, made, failed⟩ := List.mem_flatMap.1 drained
    obtain ⟨submission, present, submitted, outcome⟩ := exists_of_mem_failedOf failed
    have called := mem_nodeCalls_of_submission made present
    unfold Submission.event at called
    rcases Submission.outcome_eq_failed outcome with ⟨error, answered, rfl⟩ |
      ⟨outcomes, answered, ⟨missing, rfl⟩ | refused⟩
    · exact .inr (.batch submitted (answered ▸ called))
    · exact .inr (.missing ⟨_, outcomes, answered ▸ called, submitted, missing⟩)
    · exact .inr (.refused ⟨_, outcomes, answered ▸ called, submitted, refused⟩)
  · obtain ⟨confirmation, present, found⟩ := List.mem_filterMap.1 confirmed
    obtain ⟨error, ended, same⟩ := Confirmation.failed?_eq_some.1 found
    obtain ⟨rfl, rfl⟩ := Prod.mk.inj same
    exact .inr (ended ▸ awaited_of_confirmation present).failedBy

end Stages

/-- An answer that fails a node comes from its deletion or from the listing of its partition. -/
theorem FailedBy.deletion_or_listing {calls : List Event} {host reason : String}
    (failed : FailedBy calls host reason) :
    host ∈ removedHosts calls ∨ host ∈ submittedHosts calls ∨
      ∃ error : Compute.Error,
        reason = (Suspend.Error.lookup (partitionOf host) error.message).message := by
  cases failed with
  | accelerator answered => exact .inl (List.mem_filterMap.2 ⟨_, answered, rfl⟩)
  | listing answered => exact .inr (.inr ⟨_, rfl⟩)
  | batch submitted answered =>
    exact .inr (.inl (List.mem_toFinset.2 (List.mem_flatMap.2 ⟨_, answered, submitted⟩)))
  | missing told => exact .inr (.inl told.submitted)
  | refused told => exact .inr (.inl told.submitted)
  | wait awaited => exact .inr (.inl awaited.submitted)
  | operation awaited => exact .inr (.inl awaited.submitted)

theorem wayOf_eq_unclassified_iff {config : Config} {host reason : String}
    {partition : Partition} (found : config.partition (partitionOf host) = .ok partition) :
    wayOf config host = .unclassified reason ↔
      partition.LacksZone ∧ reason = "accelerator partition has no zone" := by
  unfold wayOf Partition.LacksZone
  rw [found]
  dsimp only
  cases partition.isAccelerator <;> cases partition.zone <;> simp [eq_comm]

/-- A node without a place lies on a partition without one. -/
theorem not_isPlaced_of_siteOf {config : Config} {host : String} {error : Suspend.Error}
    {partition : Partition} (found : config.partition (partitionOf host) = .ok partition)
    (site : Location.siteOf config host = .fixed (.error error)) : ¬partition.IsPlaced := by
  revert site
  unfold Location.siteOf Partition.IsPlaced
  rw [found]
  dsimp only
  cases partition.regionalCapacity <;> cases partition.effectiveRegion? <;>
    cases partition.zone <;> simp

/-- A valid configuration keeps a node on a known partition from its deletion only if the node is
an accelerator without a zone. -/
theorem Misconfigured.lacksZone {config : Config} {host reason : String} {partition : Partition}
    (wrong : Misconfigured config host reason) (valid : config.IsValid)
    (found : config.partition (partitionOf host) = .ok partition) : partition.LacksZone := by
  cases wrong with
  | unclassified way => exact ((wayOf_eq_unclassified_iff found).1 way).1
  | unplaced way site => exact absurd (valid.isPlaced found) (not_isPlaced_of_siteOf found site)

/-- The message of a failed listing names it as such. -/
theorem lookup_message_ne (partition message : String) :
    (Suspend.Error.lookup partition message).message ≠ "accelerator partition has no zone" := by
  intro same
  have written : "inventory lookup for partition " ++ partition ++ " failed: " ++ message =
      "accelerator partition has no zone" := same
  have first := congrArg (fun text : String => text.toList.head?) written
  simp [String.toList_append] at first

/-- A node on a known partition fails because of an answer, unless it is an accelerator without a
zone, which always fails. -/
structure FailsForCause (config : Config) (expanded : List String) (calls : List Event)
    (report : Report) : Prop where
  answered : ∀ host reason partition, (host, reason) ∈ report.failed →
    config.partition (partitionOf host) = .ok partition →
      (FailedBy calls host reason ↔ ¬partition.LacksZone)
  unanswered : report.skippedByEpilog = false → ∀ host ∈ expanded, ∀ partition,
    config.partition (partitionOf host) = .ok partition → partition.LacksZone →
      partition.regionalCapacity = true ∧
        (host, "accelerator partition has no zone") ∈ report.failed

namespace Stages

variable {config : Config} {request : Request} {hostnames : List String}
  (stages : Stages config request hostnames)

theorem mem_hostnames_of_failed {host reason : String}
    (inside : (host, reason) ∈ stages.report.failed) : host ∈ hostnames := by
  have named : host ∈ stages.report.failed.keys := List.mem_map_of_mem inside
  exact stages.divide.subset (by simp [named])

theorem mem_failed_of_unclassified {host reason : String} (inside : host ∈ hostnames)
    (way : wayOf config host = .unclassified reason) : (host, reason) ∈ stages.report.failed :=
  List.mem_append_left _ (List.mem_filterMap.2 ⟨host, inside,
    unclassified?_eq_some.2 ⟨rfl, way⟩⟩)

/-- An unclassified node fails for this reason only. -/
theorem reason_of_unclassified {host reason other : String}
    (inside : (host, other) ∈ stages.report.failed)
    (way : wayOf config host = .unclassified reason) : other = reason := by
  have expected := stages.mem_failed_of_unclassified (stages.mem_hostnames_of_failed inside) way
  have lookup := Table.find?_eq_some_iff stages.keys_failed_nodup host
  have same := ((lookup other).2 inside).symm.trans ((lookup reason).2 expected)
  exact Option.some.inj same

/-- No answer fails an accelerator without a zone. -/
theorem not_failedBy_of_lacksZone {host reason : String} {partition : Partition}
    (inside : (host, reason) ∈ stages.report.failed)
    (found : config.partition (partitionOf host) = .ok partition)
    (lacking : partition.LacksZone) : ¬FailedBy stages.events host reason := by
  have way := (wayOf_eq_unclassified_iff found).2 ⟨lacking, rfl⟩
  intro failed
  -- The listing of its partition may have failed, but a failed listing gives another reason.
  rcases failed.deletion_or_listing with removed | submitted | ⟨error, told⟩
  · obtain ⟨-, zone, other⟩ := stages.mem_removedHosts_iff.1 removed
    rw [way] at other
    cases other
  · have other := (stages.wayOf_of_submitted submitted).1
    rw [way] at other
    cases other
  · exact lookup_message_ne _ _ (told.symm.trans (stages.reason_of_unclassified inside way))

/-- The stages of a run with a valid configuration fail their nodes for a cause. -/
theorem failsForCause {expanded : List String}
    (stages : Stages config request (Suspend.distinct expanded)) (valid : config.IsValid) :
    FailsForCause config expanded stages.events stages.report := by
  constructor
  · intro host reason partition inside found
    refine ⟨fun failed lacking =>
      stages.not_failedBy_of_lacksZone inside found lacking failed, fun zoned => ?_⟩
    rcases cause_of_failed inside with wrong | failed
    · exact absurd (wrong.lacksZone valid found) zoned
    · exact failed.mono (List.prefix_append _ _)
  · intro _ host inside partition found lacking
    constructor
    · have placed := valid.isPlaced found
      by_contra fixed
      simp [Partition.IsPlaced, fixed, lacking.2] at placed
    · exact stages.mem_failed_of_unclassified ((mem_distinct _ _).2 inside)
        ((wayOf_eq_unclassified_iff found).2 ⟨lacking, rfl⟩)

end Stages

variable {World : Type} {collaborators : Collaborators World}

/-- Every run with a valid configuration fails its nodes on known partitions for a cause. -/
theorem run_fails_nodes_for_cause {config : Config} {patience : Nat} {request : Request}
    {world : World} {report : Report} {last : Session World}
    (valid : config.validate = .ok ())
    (done : run collaborators config patience request (.start world) = some (.ok report, last)) :
    ∃ expanded rest,
      last.events = .expandHostlist request.hostlist (.ok expanded) :: rest ∧
        FailsForCause config expanded rest report := by
  obtain ⟨events, ending, performed⟩ := run_performs done
  have same : last.events = events := performed.events_eq
  cases ending with
  | epilog expanded handled =>
    refine ⟨expanded, [], same, fun host reason partition inside => ?_, fun unskipped => ?_⟩
    · cases inside
    · cases unskipped
  | finished expanded unhandled stages =>
    exact ⟨expanded, stages.events, same,
      stages.failsForCause (Config.validate_eq_ok_iff.1 valid)⟩

/-- The zone of these accelerators is not configured, since the provider chooses it. -/
def podPartitions : Config :=
  { fourPartitions with
    partitions := fourPartitions.partitions ++ [("pod",
      { Partition.empty with
        region := some "us", regionalCapacity := true, acceleratorType := some "v4" })] }

/-- The hostlist is expanded to these hosts. -/
def podWorld (hostnames : List String) : Simulation.World :=
  { mixedWorld with scheduler := ⟨some hostnames, none, []⟩ }

theorem run_fails_nodes_for_cause_podWorld :
    podPartitions.validate = .ok () ∧
      ∃ report last, run Simulation.collaborators podPartitions 5 ⟨"nodes", .idle⟩
          (.start (podWorld ["fixed-2", "pod-0"])) = some (.ok report, last) ∧
        report.failed = [("pod-0", "accelerator partition has no zone"),
          ("fixed-2", "no outcome returned")] ∧
        ∃ expanded rest, last.events = .expandHostlist "nodes" (.ok expanded) :: rest ∧
          FailsForCause podPartitions expanded rest report := by
  have valid : podPartitions.validate = .ok () := by
    decide +kernel
  have reported : (finalReport? (run Simulation.collaborators podPartitions 5 ⟨"nodes", .idle⟩
      (.start (podWorld ["fixed-2", "pod-0"])))).map Report.failed =
        some [("pod-0", "accelerator partition has no zone"),
          ("fixed-2", "no outcome returned")] := by
    decide +kernel
  obtain ⟨report, last, done, failed⟩ := exists_of_finalReport? reported
  exact ⟨valid, report, last, done, failed, run_fails_nodes_for_cause valid done⟩

/-- A run can fail a node on a known partition although no answer says so. -/
theorem regional_accelerator_fails_without_answer :
    podPartitions.validate = .ok () ∧
      ∃ report last, run Simulation.collaborators podPartitions 5 ⟨"nodes", .idle⟩
          (.start (podWorld ["pod-0"])) = some (.ok report, last) ∧
        (∃ partition, podPartitions.partition (partitionOf "pod-0") = .ok partition) ∧
        ("pod-0", "accelerator partition has no zone") ∈ report.failed ∧
        ¬FailedBy last.events "pod-0" "accelerator partition has no zone" := by
  have read : readRun? (fun report events =>
      (report.failed, removedHosts events, events.flatMap Event.submitted))
      (run Simulation.collaborators podPartitions 5 ⟨"nodes", .idle⟩
        (.start (podWorld ["pod-0"]))) =
        some ([("pod-0", "accelerator partition has no zone")], [], []) := by
    decide +kernel
  obtain ⟨report, last, done, same⟩ := exists_of_readRun? read
  obtain ⟨failed, removed, submitted⟩ : report.failed = _ ∧ removedHosts last.events = [] ∧
      last.events.flatMap Event.submitted = [] := by
    simpa using same
  refine ⟨by decide +kernel, report, last, done, ⟨_, rfl⟩, by simp [failed], fun blamed => ?_⟩
  rcases blamed.deletion_or_listing with gone | asked | ⟨error, told⟩
  · rw [removed] at gone
    cases gone
  · rw [submittedHosts, submitted] at asked
    cases asked
  · exact lookup_message_ne _ _ told.symm

end Suspend

end Scaledown
