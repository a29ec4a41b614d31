/-
This file shows that the stages of a run treat each node as if it were alone.
-/

import Scaledown.Proofs.Suspend.Alone
import Scaledown.Proofs.Suspend.Conservation
import Scaledown.Proofs.Suspend.Progress
import Scaledown.Proofs.Suspend.Readmission

namespace Scaledown

open Compute Deletion Scheduler Suspend Waiting

namespace Suspend

theorem accelerator?_eq_some {config : Config} {hostname : String} {node : String × String} :
    accelerator? config hostname = some node ↔
      node.1 = hostname ∧ wayOf config hostname = .accelerator node.2 := by
  obtain ⟨host, zone⟩ := node
  unfold accelerator?
  cases wayOf config hostname <;> simp [eq_comm]

theorem standard?_eq_some {config : Config} {hostname host : String} :
    standard? config hostname = some host ↔
      host = hostname ∧ wayOf config hostname = .standard := by
  unfold standard?
  cases wayOf config hostname <;> simp [eq_comm]

theorem unclassified?_eq_some {config : Config} {hostname : String} {entry : String × String} :
    unclassified? config hostname = some entry ↔
      entry.1 = hostname ∧ wayOf config hostname = .unclassified entry.2 := by
  obtain ⟨host, reason⟩ := entry
  unfold unclassified?
  cases wayOf config hostname <;> simp [eq_comm]

namespace Stages

variable {config : Config} {request : Request} {hostnames : List String}
  {answers : LocalAnswers} {before : List Event}
  (stages : Stages config request hostnames)

/-- A removed node goes down the accelerator path. -/
theorem wayOf_removal {removal : Accelerator.Removal} (inside : removal ∈ stages.removals) :
    wayOf config removal.hostname = .accelerator removal.zone := by
  have node : removal.node ∈ hostnames.filterMap (accelerator? config) := by
    rw [← stages.removed]
    exact List.mem_map_of_mem inside
  obtain ⟨hostname, -, found⟩ := List.mem_filterMap.1 node
  obtain ⟨same, way⟩ := accelerator?_eq_some.1 found
  rw [show removal.hostname = hostname from same, way]
  rfl

/-- A sighted node goes down the batched path and is not left to its job. -/
theorem wayOf_sighting {sighting : Sighting} (inside : sighting ∈ stages.sightings) :
    wayOf config sighting.1 = .standard ∧ isSelected config request.trigger sighting.1 = true := by
  have host : sighting.1 ∈ (hostnames.filterMap (standard? config)).filter
      (isSelected config request.trigger) := by
    rw [← stages.sighted]
    exact List.mem_map_of_mem inside
  obtain ⟨standing, selected⟩ := List.mem_filter.1 host
  obtain ⟨hostname, -, found⟩ := List.mem_filterMap.1 standing
  obtain ⟨same, way⟩ := standard?_eq_some.1 found
  exact ⟨same ▸ way, selected⟩

/-- A requested host goes down the batched path and has a zone. -/
theorem exists_sighting_of_requested {host : String} (inside : host ∈ hostsOf stages.requests) :
    ∃ zone, (host, .ok (.inZone zone)) ∈ stages.sightings := by
  obtain ⟨request, asked, rfl⟩ := List.mem_map.1 inside
  obtain ⟨sighting, sighted, found⟩ := List.mem_filterMap.1 asked
  obtain rfl := Sighting.request?_eq_some.1 found
  exact ⟨request.zone, sighted⟩

/-- Exactly the nodes on the accelerator path are removed. -/
theorem mem_removedHosts_iff {host : String} : host ∈ removedHosts stages.events ↔
    host ∈ hostnames ∧ ∃ zone, wayOf config host = .accelerator zone := by
  rw [stages.deletions_events.1, stages.removed_hosts, List.mem_map]
  constructor
  · rintro ⟨node, inside, rfl⟩
    obtain ⟨hostname, present, found⟩ := List.mem_filterMap.1 inside
    obtain ⟨rfl, way⟩ := accelerator?_eq_some.1 found
    exact ⟨present, node.2, way⟩
  · rintro ⟨present, zone, way⟩
    exact ⟨(host, zone), List.mem_filterMap.2 ⟨host, present,
      accelerator?_eq_some.2 ⟨rfl, way⟩⟩, rfl⟩

/-- Exactly the nodes on the batched path that are not selected are skipped. -/
theorem mem_skipped_iff {host : String} : host ∈ stages.report.skipped ↔
    host ∈ hostnames ∧ wayOf config host = .standard ∧
      isSelected config request.trigger host = false := by
  have skipped : stages.report.skipped = (hostnames.filterMap (standard? config)).filter
      fun hostname => !isSelected config request.trigger hostname := rfl
  rw [skipped, List.mem_filter, List.mem_filterMap, Bool.not_eq_true']
  constructor
  · rintro ⟨⟨hostname, present, found⟩, left⟩
    obtain ⟨rfl, way⟩ := standard?_eq_some.1 found
    exact ⟨present, way, left⟩
  · rintro ⟨present, way, left⟩
    exact ⟨⟨host, present, standard?_eq_some.2 ⟨rfl, way⟩⟩, left⟩

/-- Only nodes on the batched path are submitted, and those left to their job are not. -/
theorem wayOf_of_submitted {host : String} (submitted : host ∈ submittedHosts stages.events) :
    wayOf config host = .standard ∧ isSelected config request.trigger host = true := by
  rw [stages.submittedHosts_events, List.mem_toFinset] at submitted
  obtain ⟨zone, inside⟩ := stages.exists_sighting_of_requested submitted
  have way := stages.wayOf_sighting inside
  exact way

/-- The accepted and the failed hosts of the drain were requested. -/
theorem requested_of_drained {host : String}
    (inside : host ∈ (stages.rounds.flatMap acceptedOf).map Prod.fst ∨
      host ∈ (stages.rounds.flatMap failedOf).map Prod.fst) :
    host ∈ hostsOf stages.requests := by
  apply stages.drained.divide.subset
  simp only [List.mem_append]
  exact .inl inside

theorem requests_nodup : (hostsOf stages.requests).Nodup := by
  have standing := (ways_hosts config stages.distinct).2.1
  have sighted : (stages.sightings.map Prod.fst).Nodup := by
    rw [stages.sighted]
    exact standing.filter _
  exact (requested_hosts sighted).1

theorem confirmations_nodup : (stages.confirmations.map Confirmation.hostname).Nodup := by
  rw [stages.confirmed_hosts]
  exact (stages.drained.accepted_hosts stages.requests_nodup).1

/-- All calls of these stages have local answers, and no host was submitted and no operation was
polled before them. -/
structure Answered (answers : LocalAnswers) (before : List Event) : Prop where
  given : Justified answers.Gives before stages.events
  unsubmitted : ∀ host, timesSubmitted before host = 0
  unpolled : ∀ name, timesPolled before name = 0

end Stages

namespace Stages.Answered

variable {config : Config} {request : Request} {hostnames : List String}
  {answers : LocalAnswers} {before : List Event} {stages : Stages config request hostnames}

/-- The calls before the drain, those of the drain and the confirmations follow each other. -/
theorem parts (answered : stages.Answered answers before) :
    Justified answers.Gives (before ++ (offlineOrders request.hostlist stages.down
        stages.powerDown request.trigger ++ stages.removals.map Accelerator.Removal.event ++
        stages.listings.map Location.Listing.event))
      (stages.rounds.flatten.map Submission.event) ∧
    Justified answers.Gives (before ++ stages.opening)
      (stages.confirmations.flatMap Confirmation.events) := by
  have whole : stages.events = offlineOrders request.hostlist stages.down stages.powerDown
        request.trigger ++ stages.removals.map Accelerator.Removal.event ++
      stages.listings.map Location.Listing.event ++
      (stages.rounds.flatten.map Submission.event) ++
      (stages.confirmations.flatMap Confirmation.events) ++
      (stages.resumptions.flatMap Resumption.events ++ stages.groupCalls) := by
    rw [← List.append_assoc]
    rfl
  have given := answered.given
  rw [whole] at given
  obtain ⟨former, confirmations⟩ := given.of_append.1.of_append
  exact ⟨former.of_append.2, confirmations⟩

theorem update_eq (answered : stages.Answered answers before) {nodes : String} {target : Target}
    {reason : Option String} {answer : Answer}
    (inside : .updateNodes nodes target reason answer ∈ stages.events) :
    answer = answers.update nodes target := by
  obtain ⟨former, given⟩ := answered.given.of_mem inside
  exact given

theorem poweredDown_eq (answered : stages.Answered answers before) :
    poweredDown stages.powerDown request.trigger =
      poweredDown (answers.update request.hostlist .powerDown) request.trigger := by
  cases trigger : request.trigger with
  | idle => rfl
  | jobCompletion job =>
    have ordered : .updateNodes request.hostlist .powerDown none stages.powerDown ∈
        stages.events := by
      have first : .updateNodes request.hostlist .powerDown none stages.powerDown ∈
          offlineOrders request.hostlist stages.down stages.powerDown request.trigger := by
        rw [trigger]
        exact List.mem_cons_of_mem _ List.mem_cons_self
      simp only [events, List.mem_append]
      tauto
    rw [answered.update_eq ordered]

theorem removal_eq (answered : stages.Answered answers before) {removal : Accelerator.Removal}
    (inside : removal ∈ stages.removals) :
    removal.answer = answers.accelerator removal.hostname removal.zone := by
  have called : removal.event ∈ stages.events := by
    have own := List.mem_map_of_mem (f := Accelerator.Removal.event) inside
    simp only [events, List.mem_append]
    tauto
  obtain ⟨former, given⟩ := answered.given.of_mem called
  exact given

theorem listing_eq (answered : stages.Answered answers before) {listing : Location.Listing}
    (inside : listing ∈ stages.listings) :
    listing.answer = answers.listing listing.region listing.partition := by
  have called : listing.event ∈ stages.events := by
    have own := List.mem_map_of_mem (f := Location.Listing.event) inside
    simp only [events, List.mem_append]
    tauto
  obtain ⟨former, given⟩ := answered.given.of_mem called
  exact given

/-- A sighted node is where its own listing puts it. -/
theorem placeOf_eq (answered : stages.Answered answers before) {sighting : Sighting}
    (inside : sighting ∈ stages.sightings) :
    answers.placeOf config sighting.1 = sighting.2 := by
  have located := stages.located sighting inside
  unfold Location.located? at located
  unfold LocalAnswers.placeOf
  cases site : Location.siteOf config sighting.1 with
  | fixed result =>
    rw [site] at located
    exact Option.some.inj located
  | listed region =>
    rw [site] at located
    obtain ⟨inventory, known, placed⟩ := Option.map_eq_some_iff.1 located
    rcases stages.learned.adds _ _ known with old | ⟨listing, listed, same, rfl⟩
    · cases old
    · have suits := stages.learned.suits listing listed
      have here := Location.region_of_suits suits same site
      rw [answered.listing_eq listed, same, here] at placed
      exact placed

/-- No host is submitted before the drain of these stages. -/
theorem timesSubmitted_before (answered : stages.Answered answers before) (host : String) :
    timesSubmitted (before ++ (offlineOrders request.hostlist stages.down stages.powerDown
      request.trigger ++ stages.removals.map Accelerator.Removal.event ++
      stages.listings.map Location.Listing.event)) host = 0 := by
  rw [timesSubmitted_append, answered.unsubmitted,
    timesSubmitted_eq_zero (submitted_of_located _ _ _ _ _ _)]

theorem settledOutcome_of_accepted (answered : stages.Answered answers before) {host : String}
    {operation : Operation} (inside : (host, operation) ∈ stages.rounds.flatMap acceptedOf) :
    answers.settledOutcome host = .accepted operation :=
  stages.drained.settledOutcome_of_accepted stages.requests_nodup
    (fun host _ => answered.timesSubmitted_before host)
    answered.parts.1 inside

theorem settledOutcome_of_failed (answered : stages.Answered answers before)
    {host message : String} (inside : (host, message) ∈ stages.rounds.flatMap failedOf) :
    answers.settledOutcome host = .failed message :=
  stages.drained.settledOutcome_of_failed stages.requests_nodup
    (fun host _ => answered.timesSubmitted_before host)
    answered.parts.1 inside

theorem settledOutcome_of_confirmation (answered : stages.Answered answers before)
    {confirmation : Confirmation (poweredDown stages.powerDown request.trigger)}
    (inside : confirmation ∈ stages.confirmations) :
    answers.settledOutcome confirmation.hostname = .accepted confirmation.operation := by
  apply answered.settledOutcome_of_accepted
  rw [← stages.confirmed]
  exact List.mem_map_of_mem (f := Confirmation.request) inside

/-- Different hosts wait for operations of different names. -/
theorem operation_names (answered : stages.Answered answers before) :
    (stages.confirmations.map fun confirmation => confirmation.operation.name).Nodup := by
  have hosts := stages.confirmations_nodup
  rw [List.nodup_iff_pairwise_ne, List.pairwise_map] at hosts ⊢
  refine hosts.imp_of_mem fun {one other} inOne inOther apart => ?_
  obtain ⟨time, first⟩ := answers.exists_accepted (answered.settledOutcome_of_confirmation inOne)
  obtain ⟨later, second⟩ :=
    answers.exists_accepted (answered.settledOutcome_of_confirmation inOther)
  exact answers.ownNames apart first second

/-- No operation is polled before the confirmations. -/
theorem timesPolled_opening (stages : Stages config request hostnames) (name : String) :
    timesPolled stages.opening name = 0 := by
  refine timesPolled_eq_zero (fun event inside => ?_) name
  simp only [opening, List.mem_append, List.mem_map] at inside
  rcases inside with ((ordered | ⟨removal, -, rfl⟩) | ⟨listing, -, rfl⟩) | ⟨submission, -, rfl⟩
  · obtain ⟨target, reason, answer, -, rfl⟩ := target_of_mem_offlineOrders ordered
    rfl
  · rfl
  · rfl
  · rfl

theorem result_eq (answered : stages.Answered answers before)
    {confirmation : Confirmation (poweredDown stages.powerDown request.trigger)}
    (inside : confirmation ∈ stages.confirmations) :
    confirmation.result = concluded (answers.lastAnswer confirmation.operation) := by
  refine confirmations_local answered.parts.2 answered.operation_names (fun other _ => ?_)
    confirmation inside
  rw [timesPolled_append, answered.unpolled, timesPolled_opening]

/-- A requested host ends as its own deletion does. -/
theorem disposition_of_requested (answered : stages.Answered answers before) {host : String}
    (inside : host ∈ hostsOf stages.requests) :
    answers.disposition config request host = answers.deletion request host := by
  obtain ⟨zone, sighted⟩ := stages.exists_sighting_of_requested inside
  obtain ⟨way, selected⟩ := stages.wayOf_sighting sighted
  have place := answered.placeOf_eq sighted
  rw [answers.disposition_eq]
  simp only [way, selected, place, if_true]

theorem disposition_of_confirmation (answered : stages.Answered answers before)
    {confirmation : Confirmation (poweredDown stages.powerDown request.trigger)}
    (inside : confirmation ∈ stages.confirmations) :
    answers.disposition config request confirmation.hostname =
      match confirmation.result with
      | .ok _ => .deleted (answers.comesBack request confirmation.hostname)
      | .error error => .failed error.message := by
  have accepted : confirmation.hostname ∈ (stages.rounds.flatMap acceptedOf).map Prod.fst := by
    rw [← stages.confirmed_hosts]
    exact List.mem_map_of_mem inside
  have alone := answered.disposition_of_requested (stages.requested_of_drained (.inl accepted))
  rw [answers.deletion_eq, answered.settledOutcome_of_confirmation inside] at alone
  rw [answered.result_eq inside]
  exact alone

theorem disposition_of_removal (answered : stages.Answered answers before)
    {removal : Accelerator.Removal} (inside : removal ∈ stages.removals) :
    answers.disposition config request removal.hostname =
      match removal.answer with
      | .ok () => .deleted (answers.comesBack request removal.hostname)
      | .error detail => .failed (Suspend.Error.accelerator removal.hostname detail).message := by
  have alone := answers.disposition_eq config request removal.hostname
  rw [stages.wayOf_removal inside] at alone
  rw [answered.removal_eq inside]
  exact alone

theorem disposition_of_sighting (answered : stages.Answered answers before)
    {sighting : Sighting} (inside : sighting ∈ stages.sightings) :
    answers.disposition config request sighting.1 =
      match sighting.2 with
      | .ok (.inZone _) => answers.deletion request sighting.1
      | .ok .absent => .absent
      | .error error => .failed error.message := by
  obtain ⟨way, selected⟩ := stages.wayOf_sighting inside
  have alone := answers.disposition_eq config request sighting.1
  rw [way] at alone
  dsimp only at alone
  rw [if_pos selected, answered.placeOf_eq inside] at alone
  exact alone

/-- A deleted host is deleted when it is looked at alone. -/
theorem disposition_of_deleted (answered : stages.Answered answers before) {host : String}
    (inside : host ∈ stages.report.deleted) :
    answers.disposition config request host = .deleted (answers.comesBack request host) := by
  rcases List.mem_append.1 inside with confirmed | removed
  · obtain ⟨confirmation, present, found⟩ := List.mem_filterMap.1 confirmed
    obtain ⟨rfl, final, ended⟩ := Confirmation.confirmed?_eq_some.1 found
    rw [answered.disposition_of_confirmation present, ended]
  · obtain ⟨removal, present, found⟩ := List.mem_filterMap.1 removed
    obtain ⟨rfl, answer⟩ := Accelerator.Removal.deleted?_eq_some.1 found
    rw [answered.disposition_of_removal present, answer]

theorem disposition_of_absent (answered : stages.Answered answers before) {host : String}
    (inside : host ∈ stages.report.absent) :
    answers.disposition config request host = .absent := by
  obtain ⟨sighting, present, found⟩ := List.mem_filterMap.1 inside
  have alone := answered.disposition_of_sighting present
  obtain rfl := Sighting.absent?_eq_some.1 found
  exact alone

theorem disposition_of_skipped {host : String} (inside : host ∈ stages.report.skipped) :
    answers.disposition config request host = .skipped := by
  obtain ⟨standing, left⟩ := List.mem_filter.1 inside
  obtain ⟨hostname, -, found⟩ := List.mem_filterMap.1 standing
  obtain ⟨rfl, way⟩ := standard?_eq_some.1 found
  rw [answers.disposition_eq, way]
  simp only [Bool.not_eq_true'] at left
  simp only [left, Bool.false_eq_true, if_false]

/-- A failed host fails for the same reason when it is looked at alone. -/
theorem disposition_of_failed (answered : stages.Answered answers before) {host reason : String}
    (inside : (host, reason) ∈ stages.report.failed) :
    answers.disposition config request host = .failed reason := by
  simp only [report, List.mem_append] at inside
  rcases inside with unclassified | ((removed | lost) | drained) | confirmed
  · obtain ⟨hostname, -, found⟩ := List.mem_filterMap.1 unclassified
    obtain ⟨rfl, way⟩ := unclassified?_eq_some.1 found
    rw [answers.disposition_eq, way]
  · obtain ⟨removal, present, found⟩ := List.mem_filterMap.1 removed
    obtain ⟨detail, answer, same⟩ := Accelerator.Removal.failed?_eq_some.1 found
    obtain ⟨rfl, rfl⟩ := Prod.mk.inj same
    rw [answered.disposition_of_removal present, answer]
  · obtain ⟨sighting, present, found⟩ := List.mem_filterMap.1 lost
    have alone := answered.disposition_of_sighting present
    obtain ⟨error, rfl, rfl⟩ := Sighting.lost?_eq_some.1 found
    exact alone
  · have failed : host ∈ (stages.rounds.flatMap failedOf).map Prod.fst :=
      List.mem_map_of_mem drained
    rw [answered.disposition_of_requested (stages.requested_of_drained (.inr failed)),
      answers.deletion_eq, answered.settledOutcome_of_failed drained]
  · obtain ⟨confirmation, present, found⟩ := List.mem_filterMap.1 confirmed
    obtain ⟨error, ended, same⟩ := Confirmation.failed?_eq_some.1 found
    obtain ⟨rfl, rfl⟩ := Prod.mk.inj same
    rw [answered.disposition_of_confirmation present, ended]

/-- The answer to an order to resume is the local one. -/
theorem answer_of_resumed (answered : stages.Answered answers before) {host : String}
    {answer : Answer} (inside : (host, answer) ∈ resumesOf stages.events) :
    answer = answers.update host .resume := by
  obtain ⟨event, called, found⟩ := List.mem_filterMap.1 inside
  cases event with
  | updateNodes nodes target reason given =>
    cases target with
    | resume =>
      obtain ⟨rfl, rfl⟩ := Prod.mk.inj (Option.some.inj found)
      exact answered.update_eq called
    | _ => cases found
  | _ => cases found

/-- A deleted host comes back when it does so alone. -/
theorem readmitted_iff (answered : stages.Answered answers before) {host : String}
    (deleted : host ∈ stages.report.deleted) :
    host ∈ stages.report.readmitted ↔ answers.comesBack request host = true := by
  have hosts := stages.resumed_hosts
  rw [answered.poweredDown_eq] at hosts
  rw [stages.readmitted_eq, ← accepted_orders, ← stages.resumesOf_events, answers.comesBack_eq,
    Bool.and_eq_true]
  constructor
  · intro returned
    obtain ⟨⟨name, answer⟩, ordered, rfl⟩ := List.mem_map.1 returned
    obtain ⟨asked, accepted⟩ := List.mem_filter.1 ordered
    have named := List.mem_map_of_mem (f := Prod.fst) asked
    rw [hosts] at named
    split at named
    · rename_i powered
      exact ⟨powered, answered.answer_of_resumed asked ▸ accepted⟩
    · cases named
  · rintro ⟨powered, accepted⟩
    rw [if_pos powered] at hosts
    rw [← hosts] at deleted
    obtain ⟨⟨name, answer⟩, asked, rfl⟩ := List.mem_map.1 deleted
    refine List.mem_map.2 ⟨_, List.mem_filter.2 ⟨asked, ?_⟩, rfl⟩
    rw [answered.answer_of_resumed asked]
    exact accepted

/-- Every entry of the report tells what becomes of its host alone. -/
theorem eq_of_mem_dispositions (answered : stages.Answered answers before) {host : String} :
    ∀ disposition ∈ stages.report.dispositions host,
      disposition = answers.disposition config request host := by
  intro disposition inside
  simp only [Report.dispositions, List.mem_append, List.mem_map, List.mem_filter,
    beq_iff_eq] at inside
  rcases inside with ((⟨name, ⟨here, rfl⟩, rfl⟩ | ⟨⟨name, reason⟩, ⟨here, rfl⟩, rfl⟩) |
    ⟨name, ⟨here, rfl⟩, rfl⟩) | ⟨name, ⟨here, rfl⟩, rfl⟩
  · have back := answered.readmitted_iff here
    rw [answered.disposition_of_deleted here, Disposition.deleted.injEq, Bool.eq_iff_iff,
      List.contains_iff_mem, back]
  · exact (answered.disposition_of_failed here).symm
  · exact (answered.disposition_of_absent here).symm
  · exact (disposition_of_skipped here).symm

/-- Every host of a run is reported once, with the disposition that it has alone. -/
theorem dispositions_eq (answered : stages.Answered answers before) (host : String) :
    stages.report.dispositions host =
      if host ∈ hostnames then [answers.disposition config request host] else [] := by
  have places : (stages.report.dispositions host).length = hostnames.count host := by
    rw [← List.perm_iff_count.1 stages.divide host]
    simp only [Report.dispositions, Table.keys, List.length_append, List.length_map,
      List.count_eq_length_filter, List.filter_append, List.filter_map, Function.comp_def]
  have replicated : stages.report.dispositions host =
      List.replicate (hostnames.count host) (answers.disposition config request host) :=
    List.eq_replicate_iff.2 ⟨places, answered.eq_of_mem_dispositions⟩
  rw [replicated]
  split
  · rename_i inside
    rw [List.count_eq_one_of_mem stages.distinct inside]
    rfl
  · rename_i outside
    rw [List.count_eq_zero_of_not_mem outside]
    rfl

end Stages.Answered

end Suspend

end Scaledown
