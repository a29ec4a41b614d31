/-
This file shows that a run loses no node and counts each node once.
-/

import Scaledown.Proofs.Suspend.Stages

namespace Scaledown

def Event.removed? : Event → Option String
  | .deleteAccelerator node _ _ => some node
  | _ => none

namespace Suspend

open Compute Deletion Scheduler

/-- These hosts were placed in a batch at least once. -/
def submittedHosts (events : List Event) : Finset String :=
  (events.flatMap Event.submitted).toFinset

/-- One accelerator was asked for per member of this list. -/
def removedHosts (events : List Event) : List String :=
  events.filterMap Event.removed?

/-- These nodes have failed before any deletion was asked for. -/
def undeleted (events : List Event) (report : Report) : List String :=
  report.failed.keys.filter fun host =>
    decide (host ∉ submittedHosts events ∧ host ∉ removedHosts events)

/-- The places of the report divide the hosts of the expansion, and its numbers are those of the
calls. -/
structure Conserves (expanded : List String) (events : List Event) (report : Report) : Prop where
  complete : ∀ host, host ∈ expanded ↔ host ∈ report.deleted ∨ host ∈ report.failed.keys ∨
    host ∈ report.absent ∨ host ∈ report.skipped
  disjoint :
    (report.deleted ++ report.failed.keys ++ report.absent ++ report.skipped).Nodup
  readmitted : report.readmitted.Nodup
  nodes : report.nodes = expanded.toFinset.card
  batched : report.batched = (submittedHosts events).card
  accelerator : report.accelerator = (removedHosts events).length
  apart : ∀ host ∈ removedHosts events, host ∉ submittedHosts events
  balanced : report.nodes = report.batched + report.accelerator + report.absent.length +
    report.skipped.length + (undeleted events report).length

/-- This call deletes no node. -/
def Spares (event : Event) : Prop :=
  event.submitted = [] ∧ event.removed? = none

theorem spares_offlineOrders (expression : String) (down powerDown : Answer) (trigger : Trigger) :
    ∀ event ∈ offlineOrders expression down powerDown trigger, Spares event := by
  cases trigger <;> simp [offlineOrders, Spares, Event.submitted, Event.removed?]

theorem spares_resumption {resumption : Resumption} :
    ∀ event ∈ resumption.events, Spares event := by
  intro event inside
  obtain ⟨answer, -, rfl⟩ := Resumption.mem_events.1 inside
  exact ⟨rfl, rfl⟩

theorem spares_confirmation {powered : Bool} {confirmation : Waiting.Confirmation powered} :
    ∀ event ∈ confirmation.events, Spares event := by
  intro event inside
  rcases Waiting.Confirmation.mem_events.1 inside with ⟨poll, -, rfl⟩ | resumed
  · exact ⟨rfl, rfl⟩
  · exact spares_resumption event resumed

theorem spares_of_isGroupCall {event : Event} (call : Placement.IsGroupCall event) :
    Spares event := by
  cases event with
  | deleteResourcePolicy | waitOperation => exact ⟨rfl, rfl⟩
  | _ => exact call.elim

/-- Calls that spare the nodes add nothing to the hosts of the deletions. -/
theorem submitted_of_spares {events : List Event} (spare : ∀ event ∈ events, Spares event) :
    events.flatMap Event.submitted = [] ∧ removedHosts events = [] :=
  ⟨List.flatMap_eq_nil_iff.2 fun event inside => (spare event inside).1,
    List.filterMap_eq_nil_iff.2 fun event inside => (spare event inside).2⟩

namespace Stages

variable {config : Config} {request : Request} {hostnames : List String}

/-- The stages ask for the deletion of their removals and their requests only. -/
theorem deletions_events (stages : Stages config request hostnames) :
    removedHosts stages.events = stages.removals.map Accelerator.Removal.hostname ∧
      stages.events.flatMap Event.submitted = hostsOf (requestsOf stages.rounds.flatten) := by
  obtain ⟨orders, orders'⟩ := submitted_of_spares
    (spares_offlineOrders request.hostlist stages.down stages.powerDown request.trigger)
  have listed : ∀ event ∈ stages.listings.map Location.Listing.event, Spares event := by
    simp [Location.Listing.event, Spares, Event.submitted, Event.removed?]
  obtain ⟨listings, listings'⟩ := submitted_of_spares listed
  have confirmed : ∀ event ∈ stages.confirmations.flatMap Waiting.Confirmation.events,
      Spares event := by
    intro event inside
    obtain ⟨confirmation, -, inside⟩ := List.mem_flatMap.1 inside
    exact spares_confirmation event inside
  obtain ⟨confirmations, confirmations'⟩ := submitted_of_spares confirmed
  have returned : ∀ event ∈ stages.resumptions.flatMap Resumption.events, Spares event := by
    intro event inside
    obtain ⟨resumption, -, inside⟩ := List.mem_flatMap.1 inside
    exact spares_resumption event inside
  obtain ⟨resumptions, resumptions'⟩ := submitted_of_spares returned
  obtain ⟨groups, groups'⟩ := submitted_of_spares fun event inside =>
    spares_of_isGroupCall (stages.grouped event inside)
  have removals : (stages.removals.map Accelerator.Removal.event).flatMap Event.submitted = [] := by
    simp [Accelerator.Removal.event, Event.submitted]
  have removals' : removedHosts (stages.removals.map Accelerator.Removal.event) =
      stages.removals.map Accelerator.Removal.hostname := by
    rw [removedHosts, List.filterMap_map, ← List.filterMap_eq_map]
    rfl
  have submissions : (stages.rounds.flatten.map Submission.event).flatMap Event.submitted =
      hostsOf (requestsOf stages.rounds.flatten) := by
    rw [List.flatMap_map, hostsOf, requestsOf, List.map_flatMap]
    rfl
  have submissions' : removedHosts (stages.rounds.flatten.map Submission.event) = [] := by
    simp [removedHosts, Submission.event, Event.removed?]
  constructor
  · simp only [removedHosts, events, List.filterMap_append] at *
    simp only [orders', removals', listings', submissions', confirmations', resumptions', groups',
      List.append_nil, List.nil_append]
  · simp only [events, List.flatMap_append, orders, removals, listings, submissions,
      confirmations, resumptions, groups, List.append_nil, List.nil_append]

/-- Every request is submitted, and nothing else is. -/
theorem submittedHosts_events (stages : Stages config request hostnames) :
    submittedHosts stages.events = (hostsOf stages.requests).toFinset := by
  rw [submittedHosts, stages.deletions_events.2]
  ext host
  simp only [hostsOf, List.mem_toFinset, List.mem_map, stages.drained.mem_requestsOf_flatten]
  rfl

/-- A deletion is asked for each node that is not absent, skipped, unclassified or lost. -/
theorem deletions_divide (stages : Stages config request hostnames) :
    (stages.removals.map Accelerator.Removal.hostname ++ hostsOf stages.requests ++
      (stages.report.absent ++ stages.report.skipped) ++
      ((hostnames.filterMap (unclassified? config)).map Prod.fst ++
        (stages.sightings.filterMap Sighting.lost?).map Prod.fst)).Perm hostnames := by
  have ways := List.perm_iff_count.1 (ways_divide config hostnames)
  have selected := List.perm_iff_count.1 (List.filter_append_perm
    (isSelected config request.trigger) (hostnames.filterMap (standard? config)))
  have sightings := List.perm_iff_count.1 (sightings_divide stages.sightings)
  rw [stages.sighted] at sightings
  rw [stages.removed_hosts, List.perm_iff_count]
  intro host
  have one := ways host
  have two := selected host
  have three := sightings host
  simp only [report, skipped, requests, hostsOf, List.count_append] at one two three ⊢
  omega

/-- The nodes that failed without a deletion are the unclassified and the lost ones. -/
theorem undeleted_perm (stages : Stages config request hostnames) :
    (undeleted stages.events stages.report).Perm
      ((hostnames.filterMap (unclassified? config)).map Prod.fst ++
        (stages.sightings.filterMap Sighting.lost?).map Prod.fst) := by
  have parts := stages.deletions_divide
  have places := stages.divide
  have partsApart := List.nodup_append.1 (parts.nodup_iff.2 stages.distinct)
  have placesDistinct := places.nodup_iff.2 stages.distinct
  have distinct : (undeleted stages.events stages.report).Nodup :=
    stages.keys_failed_nodup.filter _
  apply (List.perm_ext_iff_of_nodup distinct partsApart.2.1).2
  intro host
  rw [undeleted, List.mem_filter, decide_eq_true_iff, stages.submittedHosts_events,
    stages.deletions_events.1, List.mem_toFinset]
  constructor
  · rintro ⟨failed, unsubmitted, unremoved⟩
    have inside : host ∈ hostnames := places.subset (by simp [failed])
    have elsewhere : host ∉ stages.report.absent ++ stages.report.skipped := by
      intro other
      rw [List.append_assoc] at placesDistinct
      exact (List.nodup_append.1 placesDistinct).2.2 host (by simp [failed]) host other rfl
    have placed := parts.symm.subset inside
    simp only [List.mem_append] at placed elsewhere ⊢
    tauto
  · intro inside
    refine ⟨?_, fun submitted => ?_, fun removed => ?_⟩
    · simp only [report, Table.keys, List.map_append, List.mem_append] at inside ⊢
      tauto
    · exact partsApart.2.2 host (by simp [submitted]) host inside rfl
    · exact partsApart.2.2 host (by
        rw [List.mem_append, List.mem_append]
        exact .inl (.inl removed)) host inside rfl

/-- The stages of a run conserve its nodes. -/
theorem conserves {expanded : List String}
    (stages : Stages config request (Suspend.distinct expanded)) :
    Conserves expanded stages.events stages.report := by
  have places := stages.divide
  have parts := stages.deletions_divide
  have undeleted := stages.undeleted_perm.length_eq
  have removed := stages.deletions_events.1
  have apart := List.nodup_append.1 (parts.nodup_iff.2 stages.distinct)
  have asked := List.nodup_append.1 (List.nodup_append.1 apart.1).1
  have batched : stages.report.batched = (submittedHosts stages.events).card := by
    rw [stages.submittedHosts_events, List.toFinset_card_of_nodup asked.2.1, hostsOf,
      List.length_map]
    rfl
  have accelerator : stages.report.accelerator = (removedHosts stages.events).length := by
    rw [removed, List.length_map]
    rfl
  refine ⟨fun host => ?_, ?_, ?_, ?_, batched, accelerator, ?_, ?_⟩
  · rw [← mem_distinct, ← places.mem_iff]
    simp only [List.mem_append, or_assoc]
  · exact places.nodup_iff.2 stages.distinct
  · have deleted := (List.nodup_append.1 (List.nodup_append.1 (List.nodup_append.1
      (places.nodup_iff.2 stages.distinct)).1).1).1
    exact stages.readmitted_sublist.nodup deleted
  · exact length_distinct expanded
  · intro host inRemoved inSubmitted
    rw [removed] at inRemoved
    rw [stages.submittedHosts_events, List.mem_toFinset] at inSubmitted
    exact asked.2.2 host inRemoved host inSubmitted rfl
  · have whole := parts.length_eq
    have requested : (hostsOf stages.requests).length = stages.report.batched := by
      rw [hostsOf, List.length_map]
      rfl
    have nodes : stages.report.nodes = (Suspend.distinct expanded).length := rfl
    rw [← removed, List.length_append, List.length_append, List.length_append,
      List.length_append, ← accelerator, requested, ← undeleted, ← nodes] at whole
    omega

end Stages

variable {World : Type} {collaborators : Collaborators World}

/-- Every run that is not left to the epilog conserves the nodes of its expansion. -/
theorem run_conserves_nodes {config : Config} {patience : Nat} {request : Request}
    {world : World} {report : Report} {last : Session World}
    (done : run collaborators config patience request (.start world) = some (.ok report, last))
    (unskipped : report.skippedByEpilog = false) :
    ∃ expanded rest,
      last.events = .expandHostlist request.hostlist (.ok expanded) :: rest ∧
        Conserves expanded rest report := by
  obtain ⟨events, ending, performed⟩ := run_performs done
  have same : last.events = events := performed.events_eq
  cases ending with
  | epilog expanded handled => cases unskipped
  | finished expanded unhandled stages =>
    exact ⟨expanded, stages.events, same, stages.conserves⟩

theorem run_conserves_nodes_mixedWorld :
    ∃ report last, run Simulation.collaborators fourPartitions 5 ⟨"nodes", .idle⟩
        (.start mixedWorld) = some (.ok report, last) ∧
      report.skippedByEpilog = false ∧
      ∃ expanded rest, last.events = .expandHostlist "nodes" (.ok expanded) :: rest ∧
        Conserves expanded rest report := by
  have reported : (finalReport? (run Simulation.collaborators fourPartitions 5 ⟨"nodes", .idle⟩
      (.start mixedWorld))).map Report.skippedByEpilog = some false := by
    decide +kernel
  obtain ⟨report, last, done, unskipped⟩ := exists_of_finalReport? reported
  exact ⟨report, last, done, unskipped, run_conserves_nodes done unskipped⟩

end Suspend

end Scaledown
