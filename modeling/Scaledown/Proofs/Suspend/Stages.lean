/-
This file takes a whole run apart into its stages.
-/

import Scaledown.Proofs.Accelerator.Deletion
import Scaledown.Proofs.Deletion.Drain
import Scaledown.Proofs.Placement.Cleanup
import Scaledown.Proofs.Suspend.Location
import Scaledown.Simulation.Script

namespace Scaledown.Suspend

open Compute Deletion Scheduler

variable {World : Type} {collaborators : Collaborators World} {session last : Session World}

/-- Each deleted accelerator node gets one order to resume when it is powered down. -/
theorem readmitAll_performs {hostnames earlier readmitted : List String}
    {states after : NodeStates} {powered : Bool} (distinct : hostnames.Nodup)
    (down : ∀ host ∈ hostnames, states.phase host = .powerDown ↔ powered)
    (done : readmitAll collaborators hostnames earlier states session =
      some ((readmitted, after), last)) :
    ∃ resumptions : List Resumption, resumptions.map Resumption.hostname = hostnames ∧
      (∀ resumption ∈ resumptions, resumption.answer?.isSome ↔ powered) ∧
      Performs collaborators session (resumptions.flatMap Resumption.events) last ∧
      readmitted = earlier ++ resumptions.filterMap Resumption.resumed? ∧
      after.history = states.history ++ resumptions.flatMap Resumption.moves := by
  induction hostnames generalizing earlier states session with
  | nil =>
    obtain ⟨rfl, rfl, rfl⟩ := Step.pure_pair_eq_some.1 done
    exact ⟨[], rfl, by simp, .nothing _, by simp, by simp⟩
  | cons hostname hostnames ih =>
    obtain ⟨fresh, others⟩ := List.nodup_cons.1 distinct
    simp only [readmitAll, Step.bind_eq_some] at done
    obtain ⟨⟨resumed, states'⟩, middle, readmitted', done⟩ := done
    obtain ⟨resumption, rfl, ordered, rfl, performed, recorded, phases⟩ :=
      readmit_performs readmitted'
    have kept : ∀ host ∈ hostnames, states'.phase host = .powerDown ↔ powered := by
      intro host inside
      rw [phases host fun same => fresh (same ▸ inside)]
      exact down host (List.mem_cons_of_mem _ inside)
    obtain ⟨resumptions, rfl, orders, rest, rfl, history⟩ := ih others kept done
    refine ⟨resumption :: resumptions, rfl, ?_, performed.trans rest, ?_, ?_⟩
    · exact List.forall_mem_cons.2 ⟨ordered.trans (down _ List.mem_cons_self), orders⟩
    · cases came : resumption.succeeded <;> simp [Resumption.resumed?, came]
    · simp [history, recorded]

/-- The region and the names of the groups that belong to a job. -/
def groupsOf? (config : Config) (trigger : Trigger) (hostnames : List String) :
    Option (String × List String) := do
  let job ← trigger.job?
  let first ← hostnames.head?
  let partition ← (config.partition (partitionOf first)).toOption
  if Placement.needsCleanup (.jobCompletion job) config partition hostnames.length then
    let region ← partition.effectiveRegion?
    return (region, Placement.groupNames config.clusterName job hostnames.length
      config.suspend.placementMaxMembers)
  else none

/-- The groups of a job are deleted and waited for, if there are any. -/
inductive CleansGroups (config : Config) (trigger : Trigger) (hostnames : List String) :
    List Event → Placement.Report → Prop where
  | nothing (ungrouped : groupsOf? config trigger hostnames = none) :
      CleansGroups config trigger hostnames [] .empty
  | groups {region : String} {deletions : List Placement.GroupDeletion}
      {waits : List Placement.GroupWait}
      (grouped : groupsOf? config trigger hostnames =
        some (region, deletions.map Placement.GroupDeletion.name))
      (awaited : waits.map Placement.GroupWait.request =
        deletions.filterMap Placement.GroupDeletion.accepted?) :
      CleansGroups config trigger hostnames
        (deletions.map (Placement.GroupDeletion.event region) ++
          waits.flatMap Placement.GroupWait.events)
        (.ofGroups deletions waits)

theorem CleansGroups.isGroupCall {config : Config} {trigger : Trigger} {hostnames : List String}
    {calls : List Event} {report : Placement.Report}
    (cleaned : CleansGroups config trigger hostnames calls report) :
    ∀ event ∈ calls, Placement.IsGroupCall event := by
  cases cleaned with
  | nothing => simp
  | groups => exact Placement.isGroupCall_of_mem

/-- These stages make up a run that was not left to the epilog. -/
structure Stages (config : Config) (request : Request) (hostnames : List String) where
  down : Answer
  powerDown : Answer
  removals : List Accelerator.Removal
  listings : List Location.Listing
  inventories : Location.Inventories
  sightings : List Sighting
  rounds : List (List Submission)
  confirmations : List (Waiting.Confirmation (poweredDown powerDown request.trigger))
  resumptions : List Resumption
  groupCalls : List Event
  placement : Placement.Report
  distinct : hostnames.Nodup
  removed : removals.map Accelerator.Removal.node = hostnames.filterMap (accelerator? config)
  sighted : sightings.map Prod.fst =
    (hostnames.filterMap (standard? config)).filter (isSelected config request.trigger)
  learned : Location.Learns config [] listings inventories
  located : ∀ sighting ∈ sightings,
    Location.located? config inventories sighting.1 = some sighting.2
  drained : Rounds config.suspend.maxBatchRequests (sightings.filterMap Sighting.request?)
    rounds []
  confirmed : confirmations.map Waiting.Confirmation.request = rounds.flatMap acceptedOf
  resumed : resumptions.map Resumption.hostname =
    removals.filterMap Accelerator.Removal.deleted?
  ordered : ∀ resumption ∈ resumptions,
    resumption.answer?.isSome ↔ poweredDown powerDown request.trigger
  cleaned : CleansGroups config request.trigger hostnames groupCalls placement

namespace Stages

variable {config : Config} {request : Request} {hostnames : List String}

/-- The nodes with these hosts are left to their job. -/
def skipped (_ : Stages config request hostnames) : List String :=
  (hostnames.filterMap (standard? config)).filter
    fun hostname => !isSelected config request.trigger hostname

def requests (stages : Stages config request hostnames) : List DeleteRequest :=
  stages.sightings.filterMap Sighting.request?

/-- The calls of the stages follow each other. -/
def events (stages : Stages config request hostnames) : List Event :=
  offlineOrders request.hostlist stages.down stages.powerDown request.trigger ++
    stages.removals.map Accelerator.Removal.event ++
    stages.listings.map Location.Listing.event ++
    stages.rounds.flatten.map Submission.event ++
    stages.confirmations.flatMap Waiting.Confirmation.events ++
    stages.resumptions.flatMap Resumption.events ++
    stages.groupCalls

/-- Each stage adds its own entries to the report. -/
def report (stages : Stages config request hostnames) : Report where
  nodes := hostnames.length
  skippedByEpilog := false
  batched := stages.requests.length
  accelerator := stages.removals.length
  deleted := stages.confirmations.filterMap Waiting.Confirmation.confirmed? ++
    stages.removals.filterMap Accelerator.Removal.deleted?
  readmitted :=
    stages.confirmations.filterMap (fun confirmation => confirmation.resumption.resumed?) ++
      stages.resumptions.filterMap Resumption.resumed?
  absent := stages.sightings.filterMap Sighting.absent?
  skipped := stages.skipped
  failed := hostnames.filterMap (unclassified? config) ++
    (stages.removals.filterMap Accelerator.Removal.failed? ++
      stages.sightings.filterMap Sighting.lost? ++ stages.rounds.flatMap failedOf ++
      stages.confirmations.filterMap Waiting.Confirmation.failed?)
  retryRounds := stages.rounds.length - 1
  batchSizes := stages.rounds.flatten.map fun submission => submission.batch.length
  placementDeleted := stages.placement.deleted
  placementFailed := stages.placement.failed
  transitions := offlineMoves hostnames stages.down stages.powerDown request.trigger ++
    stages.confirmations.flatMap (fun confirmation => confirmation.resumption.moves) ++
    stages.resumptions.flatMap Resumption.moves

theorem grouped (stages : Stages config request hostnames) :
    ∀ event ∈ stages.groupCalls, Placement.IsGroupCall event :=
  stages.cleaned.isGroupCall

theorem removed_hosts (stages : Stages config request hostnames) :
    stages.removals.map Accelerator.Removal.hostname =
      (hostnames.filterMap (accelerator? config)).map Prod.fst := by
  rw [← stages.removed, List.map_map]
  rfl

theorem confirmed_hosts (stages : Stages config request hostnames) :
    stages.confirmations.map Waiting.Confirmation.hostname =
      (stages.rounds.flatMap acceptedOf).map Prod.fst := by
  rw [← stages.confirmed, List.map_map]
  rfl

/-- Every node of a run ends in exactly one place of the report. -/
theorem divide (stages : Stages config request hostnames) :
    (stages.report.deleted ++ stages.report.failed.keys ++ stages.report.absent ++
      stages.report.skipped).Perm hostnames := by
  have ways := List.perm_iff_count.1 (ways_divide config hostnames)
  have removals := List.perm_iff_count.1 (Accelerator.removals_divide stages.removals)
  have selected := List.perm_iff_count.1 (List.filter_append_perm
    (isSelected config request.trigger) (hostnames.filterMap (standard? config)))
  have sightings := List.perm_iff_count.1 (sightings_divide stages.sightings)
  have rounds := List.perm_iff_count.1 stages.drained.divide
  have confirmations := List.perm_iff_count.1 (Waiting.confirmations_divide stages.confirmations)
  rw [stages.removed_hosts] at removals
  rw [stages.sighted] at sightings
  rw [stages.confirmed_hosts] at confirmations
  rw [List.perm_iff_count]
  intro host
  have one := ways host
  have two := removals host
  have three := selected host
  have four := sightings host
  have five := rounds host
  have six := confirmations host
  simp only [report, skipped, Table.keys, hostsOf, List.map_append, List.map_nil,
    List.append_nil, List.count_append] at one two three four five six ⊢
  omega

theorem keys_failed_nodup (stages : Stages config request hostnames) :
    stages.report.failed.keys.Nodup := by
  have places := stages.divide.nodup_iff.2 stages.distinct
  have front := (List.nodup_append.1 (List.nodup_append.1 places).1).1
  exact (List.nodup_append.1 front).2.1

/-- The failures of the stages are joined without loss. -/
theorem putAll_failed (stages : Stages config request hostnames) :
    (Table.putAll (hostnames.filterMap (unclassified? config))
      (stages.removals.filterMap Accelerator.Removal.failed? ++
        stages.sightings.filterMap Sighting.lost? ++ stages.rounds.flatMap failedOf ++
        stages.confirmations.filterMap Waiting.Confirmation.failed?)) =
      stages.report.failed := by
  apply Table.putAll_eq_append
  simpa [report, Table.keys] using stages.keys_failed_nodup

/-- The nodes that come back were deleted, and they come back in the order of the report. -/
theorem readmitted_sublist (stages : Stages config request hostnames) :
    stages.report.readmitted.Sublist stages.report.deleted := by
  have confirmed := filterMap_sublist_filterMap
    (fun confirmation => confirmation.resumption.resumed?) Waiting.Confirmation.confirmed?
    stages.confirmations fun _ _ _ resumed => Waiting.Confirmation.confirmed?_of_resumed resumed
  have returned := filterMap_sublist_filterMap Resumption.resumed?
    (fun resumption => some resumption.hostname) stages.resumptions
    fun _ _ _ resumed => congrArg some (Resumption.resumed?_eq_some.1 resumed).1
  rw [List.filterMap_eq_map', stages.resumed] at returned
  exact confirmed.append returned

end Stages

/-- Only the groups of a job are cleaned up. -/
theorem cleanPlacement_eq (collaborators : Collaborators World) (config : Config)
    (interval : Duration) (patience : Nat) (trigger : Trigger) (hostnames : List String) :
    cleanPlacement collaborators config interval patience trigger hostnames =
      match groupsOf? config trigger hostnames with
      | some (region, names) =>
        Placement.cleanup collaborators interval patience region names
      | none => return .empty := by
  match trigger, hostnames with
  | .idle, _ => rfl
  | .jobCompletion _, [] => rfl
  | .jobCompletion job, first :: others =>
    cases known : config.partition (partitionOf first) with
    | error error => simp [cleanPlacement, groupsOf?, Trigger.job?, known, Except.toOption]
    | ok partition =>
      cases needed : Placement.needsCleanup (.jobCompletion job) config partition
          (first :: others).length <;>
        cases placed : partition.effectiveRegion? <;>
          simp_all [cleanPlacement, groupsOf?, Trigger.job?, Except.toOption]

theorem nodup_of_groupsOf? {config : Config} {trigger : Trigger} {hostnames : List String}
    {region : String} {names : List String}
    (grouped : groupsOf? config trigger hostnames = some (region, names)) : names.Nodup := by
  simp only [groupsOf?, Option.bind_eq_bind, Option.bind_eq_some_iff] at grouped
  obtain ⟨job, -, first, -, partition, -, grouped⟩ := grouped
  split at grouped
  · obtain ⟨_, -, same⟩ := Option.bind_eq_some_iff.1 grouped
    obtain ⟨-, rfl⟩ := Prod.mk.inj (Option.some.inj same)
    exact Placement.nodup_groupNames _ _ _ _
  · cases grouped

theorem cleanPlacement_performs {config : Config} {interval : Duration} {patience : Nat}
    {trigger : Trigger} {hostnames : List String} {report : Placement.Report}
    (done : cleanPlacement collaborators config interval patience trigger hostnames session =
      some (report, last)) :
    ∃ events, CleansGroups config trigger hostnames events report ∧
      Performs collaborators session events last := by
  rw [cleanPlacement_eq] at done
  cases grouped : groupsOf? config trigger hostnames with
  | none =>
    rw [grouped] at done
    obtain ⟨rfl, rfl⟩ := Step.pure_eq_some.1 done
    exact ⟨[], .nothing grouped, .nothing _⟩
  | some groups =>
    obtain ⟨region, names⟩ := groups
    rw [grouped] at done
    obtain ⟨deletions, waits, rfl, awaited, performed, rfl⟩ :=
      Placement.cleanup_performs (nodup_of_groupsOf? grouped) done
    exact ⟨_, .groups grouped awaited, performed⟩

/-- A run that is not left to the epilog goes through its stages and reports them. -/
theorem decommission_performs {config : Config} {pause interval : Duration} {patience : Nat}
    {request : Request} {hostnames : List String} {report : Report}
    (distinct : hostnames.Nodup)
    (done : decommission collaborators config pause interval patience request hostnames session =
      some (report, last)) :
    ∃ stages : Stages config request hostnames,
      Performs collaborators session stages.events last ∧ report = stages.report := by
  simp only [decommission, Step.bind_eq_some] at done
  obtain ⟨states, afterOffline, offline, accelerated, afterRemoval, removed, located,
    afterSearch, looked, deletion, afterDrain, drained, ⟨settled, states'⟩, afterConfirmation,
    confirmed, ⟨readmitted, states''⟩, afterReturn, returned, placement, afterCleanup, cleaned,
    done⟩ := done
  simp only [classify_eq config distinct, Classes.ofHostnames, select_eq] at removed looked done
  obtain ⟨removable, standing, removableHosts, standardHosts, apart⟩ := ways_hosts config distinct
  obtain ⟨down, powerDown, ordering, history, phases⟩ := takeOffline_performs distinct offline
  obtain ⟨removals, nodes, removing, rfl⟩ :=
    Accelerator.deleteAll_performs [] (by simpa using removable) removed
  obtain ⟨gone, removalHosts⟩ := Accelerator.deleted_hosts nodes removable
  obtain ⟨sightings, listings, inventories, sighted, listing, rfl, learned, told⟩ :=
    locateAll_performs [] (by simpa using standing.filter _) looked
  obtain ⟨requested, requestedHosts⟩ := requested_hosts (sighted ▸ standing.filter _)
  obtain ⟨rounds, made, submitting, rfl⟩ := drain_performs requested drained
  obtain ⟨accepted, acceptedHosts⟩ := made.accepted_hosts requested
  have acceptedStandard : (rounds.flatMap acceptedOf).map Prod.fst ⊆
      hostnames.filterMap (standard? config) := by
    intro host inside
    exact (List.mem_filter.1 (sighted ▸ requestedHosts (acceptedHosts inside))).1
  obtain ⟨confirmations, requests, confirming, rfl, history', phases'⟩ :=
    Waiting.confirmAndReadmit_performs (poweredDown powerDown request.trigger) []
      (by simpa using accepted)
      (fun host inside => phases host (standardHosts (acceptedStandard inside))) confirmed
  have stillDown : ∀ host ∈ removals.filterMap Accelerator.Removal.deleted?,
      states'.phase host = .powerDown ↔ poweredDown powerDown request.trigger := by
    intro host inside
    have outside := apart host (removalHosts inside)
    rw [phases' host fun confirmed => outside (acceptedStandard confirmed)]
    exact phases host (removableHosts (removalHosts inside))
  obtain ⟨resumptions, resumed, orders, returning, rfl, history''⟩ :=
    readmitAll_performs gone stillDown returned
  obtain ⟨groupCalls, groups, cleaning⟩ := cleanPlacement_performs cleaned
  obtain ⟨rfl, rfl⟩ := Step.pure_eq_some.1 done
  let stages : Stages config request hostnames :=
    ⟨down, powerDown, removals, listings, inventories, sightings, rounds, confirmations,
      resumptions, groupCalls, placement, distinct, nodes, sighted, learned, told, made,
      requests, resumed, orders, groups⟩
  refine ⟨stages, ?_, ?_⟩
  · exact (((((ordering.trans removing).trans listing).trans submitting).trans confirming).trans
      returning).trans cleaning
  · have counted : removals.length = (hostnames.filterMap (accelerator? config)).length := by
      rw [← nodes, List.length_map]
    have moved : states''.history = stages.report.transitions := by
      rw [history'', history', history]
      rfl
    have failures := stages.putAll_failed
    simp only [Accelerator.Report.ofRemovals, Located.ofSightings, Summary.ofRounds,
      Waiting.Report.ofConfirmations, List.nil_append, ← counted, moved]
    rw [failures]
    rfl

/-- A run ends early, is left to the epilog or goes through its stages. -/
inductive Ending (config : Config) (request : Request) :
    List Event → Except Error Report → Prop where
  | unconfigured (error : Config.Error)
      (unread : config.batchPause = .error error ∨ config.operationPollInterval = .error error) :
      Ending config request [] (.error (.config error))
  | unexpanded (error : Scheduler.Error) :
      Ending config request [.expandHostlist request.hostlist (.error error)]
        (.error (.scheduler error))
  | epilog (expanded : List String)
      (handled : epilogHandles config (distinct expanded) request.trigger = true) :
      Ending config request [.expandHostlist request.hostlist (.ok expanded)]
        (.ok { Report.ofNodes (distinct expanded).length with skippedByEpilog := true })
  | finished (expanded : List String)
      (unhandled : epilogHandles config (distinct expanded) request.trigger = false)
      (stages : Stages config request (distinct expanded)) :
      Ending config request (.expandHostlist request.hostlist (.ok expanded) :: stages.events)
        (.ok stages.report)

/-- The calls and the result of every run belong to one of its endings. -/
theorem run_performs {config : Config} {patience : Nat} {request : Request}
    {result : Except Error Report}
    (done : run collaborators config patience request session = some (result, last)) :
    ∃ events, Ending config request events result ∧
      Performs collaborators session events last := by
  cases pausing : config.batchPause with
  | error error =>
    simp only [run, pausing] at done
    obtain ⟨rfl, rfl⟩ := Step.pure_eq_some.1 done
    exact ⟨[], .unconfigured error (.inl pausing), .nothing _⟩
  | ok pause =>
    cases polling : config.operationPollInterval with
    | error error =>
      simp only [run, pausing, polling] at done
      obtain ⟨rfl, rfl⟩ := Step.pure_eq_some.1 done
      exact ⟨[], .unconfigured error (.inr polling), .nothing _⟩
    | ok interval =>
      simp only [run, pausing, polling, Step.bind_eq_some] at done
      obtain ⟨answer, middle, asked, done⟩ := done
      have called := Collaborators.expandHostlist_performs asked
      cases answer with
      | error error =>
        obtain ⟨rfl, rfl⟩ := Step.pure_eq_some.1 done
        exact ⟨_, .unexpanded error, called⟩
      | ok expanded =>
        dsimp only at done
        cases handled : epilogHandles config (distinct expanded) request.trigger with
        | true =>
          rw [handled, if_pos rfl] at done
          obtain ⟨rfl, rfl⟩ := Step.pure_eq_some.1 done
          exact ⟨_, .epilog expanded handled, called⟩
        | false =>
          rw [handled, if_neg Bool.false_ne_true, Step.bind_eq_some] at done
          obtain ⟨report, reached, decommissioned, done⟩ := done
          obtain ⟨rfl, rfl⟩ := Step.pure_eq_some.1 done
          obtain ⟨stages, performed, rfl⟩ :=
            decommission_performs (nodup_distinct expanded) decommissioned
          exact ⟨_, .finished expanded handled stages, called.trans performed⟩

theorem retryRounds_le_of_decommission {config : Config} {pause interval : Duration}
    {patience : Nat} {request : Request} {hostnames : List String} {report : Report}
    (done : decommission collaborators config pause interval patience request hostnames session =
      some (report, last)) : report.retryRounds ≤ patience := by
  simp only [decommission, Step.bind_eq_some] at done
  obtain ⟨_, _, -, _, _, -, located, _, -, deletion, _, drained, _, _, -, _, _, -, _, _, -,
    done⟩ := done
  obtain ⟨rfl, -⟩ := Step.pure_eq_some.1 done
  exact (Nat.sub_le _ 1).trans (rounds_le_patience collaborators drained)

/-- The report of a run counts no more rounds than the patience of its caller, so a counter of
thirty-two bits holds them whenever it holds the patience. -/
theorem retryRounds_le_patience {config : Config} {patience : Nat} {request : Request}
    {report : Report}
    (done : run collaborators config patience request session = some (.ok report, last)) :
    report.retryRounds ≤ patience := by
  cases pausing : config.batchPause <;> cases polling : config.operationPollInterval <;>
    simp only [run, pausing, polling] at done
  case ok.ok pause interval =>
    obtain ⟨answer, middle, -, done⟩ := Step.bind_eq_some.1 done
    cases answer with
    | error error => cases (Step.pure_eq_some.1 done).1
    | ok expanded =>
      dsimp only at done
      split at done
      · obtain ⟨same, -⟩ := Step.pure_eq_some.1 done
        obtain rfl := Except.ok.inj same
        exact Nat.zero_le patience
      · obtain ⟨reached, _, decommissioned, done⟩ := Step.bind_eq_some.1 done
        obtain ⟨same, -⟩ := Step.pure_eq_some.1 done
        obtain rfl := Except.ok.inj same
        exact retryRounds_le_of_decommission decommissioned
  all_goals cases (Step.pure_eq_some.1 done).1

/-- The four partitions are static, of accelerators, exclusive and regional. -/
def fourPartitions : Config where
  project := "project"
  clusterName := "cluster"
  schedulerDirectory := none
  logDirectory := none
  computeEndpoint := none
  credentialsPath := none
  suspend := { SuspendSettings.standard with maxBatchRequests := 2 }
  partitions :=
    [("fixed", { Partition.empty with zone := some "us-a" }),
     ("chip", { Partition.empty with zone := some "us-a", acceleratorType := some "v4" }),
     ("own", { Partition.empty with zone := some "us-a", exclusive := true }),
     ("wide", { Partition.empty with region := some "us", regionalCapacity := true })]

/-- One node is throttled once, one is left out of an answer, and one is named twice. -/
def mixedWorld : Simulation.World where
  provider := ⟨[], [("fixed-1", [.outcome (.throttled "rate limit exceeded")]),
    ("fixed-2", [.missing])], [], [], []⟩
  scheduler := ⟨some ["fixed-0", "fixed-1", "fixed-0", "fixed-2", "chip-0", "own-0", "wide-0",
    "other-0"], none, []⟩
  accelerator := []

/-- A run that came to its end has this report. -/
def finalReport? {World : Type} (ended : Option (Except Error Report × Session World)) :
    Option Report :=
  ended.bind fun final => final.1.toOption

theorem exists_of_finalReport? {World : Type} {α : Type} {read : Report → α} {value : α}
    {ended : Option (Except Error Report × Session World)}
    (reported : (finalReport? ended).map read = some value) :
    ∃ report last, ended = some (.ok report, last) ∧ read report = value := by
  obtain ⟨report, found, same⟩ := Option.map_eq_some_iff.1 reported
  obtain ⟨⟨result, last⟩, rfl, final⟩ := Option.bind_eq_some_iff.1 found
  cases result with
  | error error => cases final
  | ok whole =>
    obtain rfl := Option.some.inj final
    exact ⟨whole, last, rfl, same⟩

/-- The report and the calls of a run that came to its end are read together. -/
def readRun? {World α : Type} (read : Report → List Event → α)
    (ended : Option (Except Error Report × Session World)) : Option α :=
  ended.bind fun final => final.1.toOption.map fun report => read report final.2.events

theorem exists_of_readRun? {World α : Type} {read : Report → List Event → α} {value : α}
    {ended : Option (Except Error Report × Session World)}
    (found : readRun? read ended = some value) :
    ∃ report last, ended = some (.ok report, last) ∧ read report last.events = value := by
  obtain ⟨⟨result, last⟩, rfl, final⟩ := Option.bind_eq_some_iff.1 found
  obtain ⟨report, reported, same⟩ := Option.map_eq_some_iff.1 final
  cases result with
  | error error => cases reported
  | ok whole =>
    obtain rfl := Option.some.inj reported
    exact ⟨whole, last, rfl, same⟩

end Scaledown.Suspend
