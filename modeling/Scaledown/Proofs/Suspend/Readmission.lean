/-
This file shows that exactly the deleted nodes are told to come back.
-/

import Scaledown.Proofs.Suspend.Progress

namespace Scaledown

/-- An order to resume is told with its answer. -/
def Event.resume? : Event → Option (String × Scheduler.Answer)
  | .updateNodes nodes .resume _ answer => some (nodes, answer)
  | _ => none

namespace Suspend

open Compute Deletion Scheduler Waiting

/-- The orders to resume are listed in the order of their calls. -/
def resumesOf (events : List Event) : List (String × Answer) :=
  events.filterMap Event.resume?

/-- These calls confirm the deletion of a node. Its accelerator was deleted, or its accepted
operation was done without error items after the polls that come last. -/
inductive Gone (before : List Event) (host : String) : Prop where
  | removed (zone : String) (answered : .deleteAccelerator host zone (.ok ()) ∈ before)
  | finished {earlier : List Event} {batch : List DeleteRequest} {outcomes : BatchOutcome}
      {accepted final : Operation} {polls : List Poll}
      (asked : .deleteInstances batch (.ok outcomes) ∈ earlier)
      (submitted : host ∈ hostsOf batch)
      (found : outcomes.find? host = some (.accepted accepted))
      (last : before = earlier ++ polls.map Poll.event)
      (polled : Polled accepted polls (.ok final))
      (done : final.isDone = true) (clean : final.faults.getD [] = [])

/-- The nodes of a job are powered down by an accepted order. -/
def OrderedDown (request : Request) (before : List Event) : Prop :=
  request.trigger.isJob = true → .updateNodes request.hostlist .powerDown none (.ok ()) ∈ before

def RecordedDown (report : Report) (host : String) : Prop :=
  ∃ source, (⟨host, source, .powerDown⟩ : Transition) ∈ report.transitions

/-- Nodes come back once, after their deletion is confirmed, and all deleted nodes that were
powered down are told to come back. -/
structure Readmits (request : Request) (events : List Event) (report : Report) : Prop where
  once : ((resumesOf events).map Prod.fst).Nodup
  safe : ∀ before host reason answer after,
    events = before ++ .updateNodes host .resume reason answer :: after →
      Gone before host ∧ OrderedDown request before ∧ RecordedDown report host
  complete : ∀ host ∈ report.deleted, RecordedDown report host →
    ((resumesOf events).map Prod.fst).count host = 1
  readmitted : report.readmitted =
    ((resumesOf events).filter fun order => order.2.isOk).map Prod.fst
  deleted : report.readmitted ⊆ report.deleted
  recorded : report.readmitted =
    (report.transitions.filter fun move => move.target == .schedulable).map Transition.hostname
  never : ∀ host, host ∈ report.failed.keys ∨ host ∈ report.absent ∨ host ∈ report.skipped →
    host ∉ (resumesOf events).map Prod.fst

/-- A run that fails tells no node to come back. -/
def ReadmitsOnlyDeleted (request : Request) (events : List Event) : Except Error Report → Prop
  | .ok report => Readmits request events report
  | .error _ => resumesOf events = []

/-- These orders belong to resumptions that were asked for. -/
def orders (resumptions : List Resumption) : List (String × Answer) :=
  resumptions.filterMap fun resumption =>
    resumption.answer?.map fun answer => (resumption.hostname, answer)

theorem resumesOf_resumptions (resumptions : List Resumption) :
    resumesOf (resumptions.flatMap Resumption.events) = orders resumptions := by
  rw [resumesOf, List.filterMap_flatMap, orders, List.filterMap_eq_flatMap_toList]
  congr 1
  funext resumption
  rw [Resumption.events]
  cases resumption.answer? <;> rfl

theorem resumesOf_confirmations {powered : Bool} (confirmations : List (Confirmation powered)) :
    resumesOf (confirmations.flatMap Confirmation.events) =
      orders (confirmations.map Confirmation.resumption) := by
  rw [← resumesOf_resumptions, List.flatMap_map, resumesOf, List.filterMap_flatMap, resumesOf,
    List.filterMap_flatMap]
  congr 1
  funext confirmation
  have polls : (confirmation.polls.map Poll.event).filterMap Event.resume? = [] := by
    simp [Poll.event, Event.resume?]
  rw [Confirmation.events, List.filterMap_append, polls, List.nil_append]

/-- The accepted orders name the nodes that come back. -/
theorem accepted_orders (resumptions : List Resumption) :
    ((orders resumptions).filter fun order => order.2.isOk).map Prod.fst =
      resumptions.filterMap Resumption.resumed? := by
  induction resumptions with
  | nil => rfl
  | cons resumption resumptions ih =>
    obtain ⟨host, answer?⟩ := resumption
    unfold orders at ih ⊢
    match answer? with
    | none => simpa [Resumption.resumed?, Resumption.succeeded] using ih
    | some (.ok ()) =>
      simpa [Resumption.resumed?, Resumption.succeeded, Except.isOk, Except.toBool] using ih
    | some (.error error) =>
      simpa [Resumption.resumed?, Resumption.succeeded, Except.isOk, Except.toBool] using ih

/-- Confirmed nodes are told to come back when they are powered down, and none otherwise. -/
theorem orders_confirmations {powered : Bool} (confirmations : List (Confirmation powered)) :
    (orders (confirmations.map Confirmation.resumption)).map Prod.fst =
      if powered then confirmations.filterMap Confirmation.confirmed? else [] := by
  induction confirmations with
  | nil => simp [orders]
  | cons confirmation confirmations ih =>
    have ordered := confirmation.ordered
    unfold orders at ih ⊢
    cases answered : confirmation.answer? <;> cases ended : confirmation.result <;>
      cases powered <;>
      simp_all [Confirmation.resumption, Confirmation.confirmed?, Except.isOk, Except.toBool]

theorem orders_resumptions {powered : Bool} {resumptions : List Resumption}
    (ordered : ∀ resumption ∈ resumptions, resumption.answer?.isSome ↔ powered) :
    (orders resumptions).map Prod.fst =
      if powered then resumptions.map Resumption.hostname else [] := by
  induction resumptions with
  | nil => simp [orders]
  | cons resumption resumptions ih =>
    have first := ordered resumption List.mem_cons_self
    have rest := ih fun other inside => ordered other (List.mem_cons_of_mem _ inside)
    unfold orders at rest ⊢
    cases answered : resumption.answer? <;> cases powered <;> simp_all

/-- This call resumes no node. -/
def Rests (event : Event) : Prop :=
  event.resume? = none

theorem rests_of_isGroupCall {event : Event} (call : Placement.IsGroupCall event) :
    Rests event := by
  cases event with
  | updateNodes => exact call.elim
  | _ => rfl

theorem resumesOf_of_rests {events : List Event} (rest : ∀ event ∈ events, Rests event) :
    resumesOf events = [] :=
  List.filterMap_eq_nil_iff.2 rest

namespace Stages

variable {config : Config} {request : Request} {hostnames : List String}

/-- These calls come before all orders to resume. -/
def opening (stages : Stages config request hostnames) : List Event :=
  offlineOrders request.hostlist stages.down stages.powerDown request.trigger ++
    stages.removals.map Accelerator.Removal.event ++
    stages.listings.map Location.Listing.event ++
    stages.rounds.flatten.map Submission.event

/-- All nodes that may come back are listed in the order of their turns. -/
def resumable (stages : Stages config request hostnames) : List Resumption :=
  stages.confirmations.map Confirmation.resumption ++ stages.resumptions

theorem rests_opening (stages : Stages config request hostnames) :
    ∀ event ∈ stages.opening, Rests event := by
  intro event inside
  simp only [opening, List.mem_append, List.mem_map] at inside
  rcases inside with ((ordered | ⟨removal, -, rfl⟩) | ⟨listing, -, rfl⟩) | ⟨submission, -, rfl⟩
  · obtain ⟨target, reason, answer, other, rfl⟩ := target_of_mem_offlineOrders ordered
    cases target with
    | resume => exact absurd rfl other
    | _ => rfl
  · rfl
  · rfl
  · rfl

theorem resumesOf_events (stages : Stages config request hostnames) :
    resumesOf stages.events = orders stages.resumable := by
  have opening : resumesOf stages.opening = [] := resumesOf_of_rests stages.rests_opening
  have groups : resumesOf stages.groupCalls = [] :=
    resumesOf_of_rests fun event inside => rests_of_isGroupCall (stages.grouped event inside)
  have parts : stages.events = stages.opening ++
      stages.confirmations.flatMap Confirmation.events ++
      stages.resumptions.flatMap Resumption.events ++ stages.groupCalls := rfl
  have cut (one two : List Event) : resumesOf (one ++ two) = resumesOf one ++ resumesOf two :=
    List.filterMap_append
  rw [parts, cut, cut, cut, opening, groups, resumesOf_confirmations, resumesOf_resumptions,
    List.nil_append, List.append_nil, orders, orders, resumable, orders, List.filterMap_append]

/-- All deleted nodes are told to come back when they are powered down, and none otherwise. -/
theorem resumed_hosts (stages : Stages config request hostnames) :
    (resumesOf stages.events).map Prod.fst =
      if poweredDown stages.powerDown request.trigger then stages.report.deleted else [] := by
  have joined : orders stages.resumable =
      orders (stages.confirmations.map Confirmation.resumption) ++ orders stages.resumptions :=
    List.filterMap_append
  rw [stages.resumesOf_events, joined, List.map_append, orders_confirmations,
    orders_resumptions stages.ordered, stages.resumed, report]
  split <;> rfl

theorem readmitted_eq (stages : Stages config request hostnames) :
    stages.report.readmitted = stages.resumable.filterMap Resumption.resumed? := by
  rw [resumable, List.filterMap_append, List.filterMap_map]
  rfl

theorem transitions_eq (stages : Stages config request hostnames) :
    stages.report.transitions =
      offlineMoves hostnames stages.down stages.powerDown request.trigger ++
        stages.resumable.flatMap Resumption.moves := by
  rw [resumable, List.flatMap_append, List.flatMap_map, ← List.append_assoc]
  rfl

/-- Only moves back into service lead to a schedulable node. -/
theorem schedulable_transitions (stages : Stages config request hostnames) :
    (stages.report.transitions.filter fun move => move.target == .schedulable).map
      Transition.hostname = stages.report.readmitted := by
  have offline : (offlineMoves hostnames stages.down stages.powerDown request.trigger).filter
      (fun move => move.target == .schedulable) = [] := by
    refine List.filter_eq_nil_iff.2 fun move inside => ?_
    simpa using (target_of_mem_offlineMoves inside).1
  rw [stages.transitions_eq, List.filter_append, offline, List.nil_append, moves_hostnames,
    stages.readmitted_eq]

theorem recordedDown_iff (stages : Stages config request hostnames) {host : String}
    (inside : host ∈ hostnames) :
    RecordedDown stages.report host ↔ poweredDown stages.powerDown request.trigger = true := by
  unfold RecordedDown
  rw [stages.transitions_eq]
  constructor
  · rintro ⟨source, moved⟩
    rcases List.mem_append.1 moved with offline | back
    · exact (target_of_mem_offlineMoves offline).2 rfl
    · obtain ⟨resumption, -, move⟩ := List.mem_flatMap.1 back
      rw [Resumption.moves] at move
      split at move
      · cases List.mem_singleton.1 move
      · cases move
  · intro powered
    obtain ⟨source, moved⟩ := mem_offlineMoves_of_poweredDown powered inside
    exact ⟨source, List.mem_append_left _ moved⟩

end Stages

theorem faults_of_errorMessage?_eq_none {operation : Operation}
    (clean : operation.errorMessage? = none) : operation.faults.getD [] = [] := by
  unfold Operation.errorMessage? at clean
  split at clean
  · rename_i absent
    rw [absent]
    rfl
  · rename_i empty
    rw [empty]
    rfl
  · cases clean

/-- A node may be told to come back after its deletion is confirmed and it is powered down. -/
def MayResume (request : Request) (report : Report) (before : List Event) (event : Event) : Prop :=
  ∀ host reason answer, event = .updateNodes host .resume reason answer →
    Gone before host ∧ OrderedDown request before ∧ RecordedDown report host

theorem mayResume_of_rests {request : Request} {report : Report} {before : List Event}
    {event : Event} (rest : Rests event) : MayResume request report before event := by
  rintro host reason answer rfl
  cases rest

namespace Stages

variable {config : Config} {request : Request} {hostnames : List String}

/-- A removed node has left with its accelerator. -/
theorem gone_of_deleted {stages : Stages config request hostnames} {host : String}
    (inside : host ∈ stages.removals.filterMap Accelerator.Removal.deleted?) {start later} :
    Gone (start ++ stages.opening ++ later) host := by
  obtain ⟨removal, present, deleted⟩ := List.mem_filterMap.1 inside
  have called : removal.event ∈ start ++ stages.opening ++ later := by
    simp only [opening, List.mem_append, List.mem_map]
    exact .inl (.inr (.inl (.inl (.inr ⟨removal, present, rfl⟩))))
  obtain ⟨rfl, answered⟩ := Accelerator.Removal.deleted?_eq_some.1 deleted
  rw [Accelerator.Removal.event, answered] at called
  exact .removed removal.zone called

/-- An operation that is waited for was accepted for its host. -/
theorem exists_of_confirmation {stages : Stages config request hostnames}
    {confirmation : Confirmation (poweredDown stages.powerDown request.trigger)}
    (inside : confirmation ∈ stages.confirmations) :
    ∃ batch outcomes, .deleteInstances batch (.ok outcomes) ∈ stages.opening ∧
      confirmation.hostname ∈ hostsOf batch ∧
      outcomes.find? confirmation.hostname = some (.accepted confirmation.operation) := by
  have requested : confirmation.request ∈ stages.rounds.flatMap acceptedOf := by
    rw [← stages.confirmed]
    exact List.mem_map_of_mem inside
  obtain ⟨round, inRounds, accepted⟩ := List.mem_flatMap.1 requested
  obtain ⟨submission, inRound, outcomes, answered, submitted, found⟩ :=
    exists_of_mem_acceptedOf accepted
  refine ⟨submission.batch, outcomes, ?_, submitted, found⟩
  have event : submission.event = .deleteInstances submission.batch (.ok outcomes) := by
    rw [Submission.event, answered]
  simp only [opening, List.mem_append, List.mem_map]
  exact .inr ⟨submission, List.mem_flatten.2 ⟨round, inRounds, inRound⟩, event⟩

/-- A node whose operation was polled to its end has left with it. -/
theorem gone_of_confirmed {stages : Stages config request hostnames}
    {confirmation : Confirmation (poweredDown stages.powerDown request.trigger)}
    (inside : confirmation ∈ stages.confirmations) {final : Operation}
    (ended : confirmation.result = .ok final) {start later} :
    Gone (start ++ stages.opening ++ later ++ confirmation.polls.map Poll.event)
      confirmation.hostname := by
  obtain ⟨batch, outcomes, answered, submitted, found⟩ := exists_of_confirmation inside
  have called : .deleteInstances batch (.ok outcomes) ∈ start ++ stages.opening ++ later :=
    List.mem_append_left _ (List.mem_append_right _ answered)
  have polled := ended ▸ confirmation.polled
  obtain ⟨done, clean, -⟩ := polled.isDone_of_ok
  exact .finished called submitted found rfl polled done (faults_of_errorMessage?_eq_none clean)

theorem orderedDown {stages : Stages config request hostnames}
    (powered : poweredDown stages.powerDown request.trigger = true) {start later} :
    OrderedDown request (start ++ stages.opening ++ later) := by
  intro job
  simp only [opening, List.mem_append]
  exact .inl (.inr (.inl (.inl (.inl (mem_offlineOrders_of_poweredDown job powered)))))

theorem mem_hostnames_of_deleted {stages : Stages config request hostnames} {host : String}
    (inside : host ∈ stages.report.deleted) : host ∈ hostnames :=
  stages.divide.subset (by simp [inside])

/-- A node is resumed when its own order may be given. -/
theorem mayResume_resumption {report : Report} {before : List Event} {resumption : Resumption}
    (here : resumption.answer?.isSome → Gone before resumption.hostname ∧
      OrderedDown request before ∧ RecordedDown report resumption.hostname) :
    Justified (MayResume request report) before resumption.events := by
  unfold Resumption.events
  cases answered : resumption.answer? with
  | none => exact .of_forall (by simp)
  | some answer =>
    apply Justified.singleton
    rintro host reason given same
    obtain ⟨rfl, -⟩ := Event.updateNodes.inj same
    exact here (by rw [answered]; rfl)

theorem mayResume_confirmation {stages : Stages config request hostnames}
    {confirmation : Confirmation (poweredDown stages.powerDown request.trigger)}
    (inside : confirmation ∈ stages.confirmations) {start later} :
    Justified (MayResume request stages.report) (start ++ stages.opening ++ later)
      confirmation.events := by
  refine .append (.of_forall fun event poll before => ?_) (mayResume_resumption fun ordered => ?_)
  · obtain ⟨poll, -, rfl⟩ := List.mem_map.1 poll
    exact mayResume_of_rests rfl
  · obtain ⟨isOk, powered⟩ := confirmation.ordered.1 ordered
    cases ended : confirmation.result with
    | error error => rw [ended] at isOk; cases isOk
    | ok final =>
      have deleted : confirmation.hostname ∈ stages.report.deleted := by
        apply List.mem_append_left
        exact List.mem_filterMap.2
          ⟨confirmation, inside, Confirmation.confirmed?_eq_some.2 ⟨rfl, final, ended⟩⟩
      have recorded := (stages.recordedDown_iff (mem_hostnames_of_deleted deleted)).2 powered
      refine ⟨gone_of_confirmed inside ended, ?_, recorded⟩
      rw [List.append_assoc]
      exact orderedDown powered

/-- Every order to resume in a run is safe. -/
theorem mayResume_events (stages : Stages config request hostnames) (start : List Event) :
    Justified (MayResume request stages.report) start stages.events := by
  have parts : stages.events = stages.opening ++
      stages.confirmations.flatMap Confirmation.events ++
      stages.resumptions.flatMap Resumption.events ++ stages.groupCalls := rfl
  rw [parts]
  refine .append (.append (.append ?_ ?_) ?_) ?_
  · exact .of_forall fun event inside before =>
      mayResume_of_rests (stages.rests_opening event inside)
  · exact .flatMap fun earlier confirmation inside => mayResume_confirmation inside
  · refine .flatMap fun earlier resumption inside => mayResume_resumption fun ordered => ?_
    have powered := (stages.ordered resumption inside).1 ordered
    have removed :
        resumption.hostname ∈ stages.removals.filterMap Accelerator.Removal.deleted? := by
      rw [← stages.resumed]
      exact List.mem_map_of_mem inside
    have deleted : resumption.hostname ∈ stages.report.deleted := List.mem_append_right _ removed
    rw [← List.append_assoc start, List.append_assoc _ _ earlier]
    exact ⟨gone_of_deleted removed, orderedDown powered,
      (stages.recordedDown_iff (mem_hostnames_of_deleted deleted)).2 powered⟩
  · exact .of_forall fun event inside before =>
      mayResume_of_rests (rests_of_isGroupCall (stages.grouped event inside))

/-- The stages of a run readmit its deleted nodes. -/
theorem readmits (stages : Stages config request hostnames)
    (expanded : Except Scheduler.Error (List String)) :
    Readmits request (.expandHostlist request.hostlist expanded :: stages.events)
      stages.report := by
  have resumes : resumesOf (.expandHostlist request.hostlist expanded :: stages.events) =
      resumesOf stages.events := rfl
  have places := stages.divide.nodup_iff.2 stages.distinct
  simp only [List.append_assoc] at places
  obtain ⟨deletedOnce, -, apart⟩ := List.nodup_append.1 places
  have hosts := stages.resumed_hosts
  refine ⟨?_, ?_, ?_, ?_, stages.readmitted_sublist.subset, stages.schedulable_transitions.symm, ?_⟩
  · rw [resumes, hosts]
    split
    · exact deletedOnce
    · exact List.nodup_nil
  · intro before host reason answer after cut
    cases before with
    | nil => simp at cut
    | cons first before =>
      obtain ⟨rfl, rest⟩ := List.cons_eq_cons.1 cut
      exact stages.mayResume_events [_] before _ after rest host reason answer rfl
  · intro host deleted recorded
    have powered := (stages.recordedDown_iff (mem_hostnames_of_deleted deleted)).1 recorded
    rw [resumes, hosts, if_pos powered]
    exact List.count_eq_one_of_mem deletedOnce deleted
  · rw [resumes, stages.resumesOf_events, accepted_orders, stages.readmitted_eq]
  · intro host elsewhere resumed
    rw [resumes, hosts] at resumed
    split at resumed
    · refine apart host resumed host ?_ rfl
      simpa using elsewhere
    · cases resumed

end Stages

/-- Every ending readmits the deleted nodes of its run. -/
theorem Ending.readmits {config : Config} {request : Request} {events : List Event}
    {result : Except Error Report} (ending : Ending config request events result) :
    ReadmitsOnlyDeleted request events result := by
  cases ending with
  | unconfigured | unexpanded => rfl
  | epilog expanded handled =>
    refine ⟨List.nodup_nil, ?_, by simp [Report.ofNodes], rfl, by simp [Report.ofNodes], rfl, ?_⟩
    · intro before host reason answer after cut
      cases before with
      | nil => simp at cut
      | cons first before => simp at cut
    · rintro host - inside
      cases inside
  | finished expanded unhandled stages => exact stages.readmits (.ok expanded)

variable {World : Type}

theorem readmits_of_run {collaborators : Collaborators World} {config : Config} {patience : Nat}
    {request : Request} {world : World} {result : Except Error Report} {last : Session World}
    (done : run collaborators config patience request (.start world) = some (result, last)) :
    ReadmitsOnlyDeleted request last.events result := by
  obtain ⟨events, ending, performed⟩ := run_performs done
  have same : last.events = events := performed.events_eq
  rw [same]
  exact ending.readmits

/-- Every run tells exactly its deleted nodes to come back, and a run that fails tells none. The
same holds after any number of calls, even if the run has no end. -/
theorem run_readmits_deleted_nodes (collaborators : Collaborators World) (config : Config)
    (request : Request) (world : World) :
    (∀ patience result last,
      run collaborators config patience request (.start world) = some (result, last) →
        ReadmitsOnlyDeleted request last.events result) ∧
      ∀ calls, ∃ result last bound,
        (∀ patience, bound ≤ patience →
          run collaborators.interrupted config patience request (.start ⟨calls, world⟩) =
            some (result, last)) ∧
          ReadmitsOnlyDeleted request last.events result := by
  refine ⟨fun patience result last done => readmits_of_run done, fun calls => ?_⟩
  obtain ⟨result, last, bound, -, ended⟩ :=
    run_interrupted_ends collaborators config request ⟨calls, world⟩
  exact ⟨result, last, bound, ended, readmits_of_run (ended bound le_rfl)⟩

/-- The first node of this job lies on an exclusive partition, so the epilog leaves it. -/
def jobWorld : Simulation.World :=
  { mixedWorld with scheduler := ⟨some ["own-0", "fixed-1", "fixed-2", "chip-0"], none, []⟩ }

theorem run_readmits_deleted_nodes_jobWorld :
    ∃ report last, run Simulation.collaborators fourPartitions 5 ⟨"nodes", .jobCompletion 7⟩
        (.start jobWorld) = some (.ok report, last) ∧
      report.readmitted = ["own-0", "fixed-1", "chip-0"] ∧
      Readmits ⟨"nodes", .jobCompletion 7⟩ last.events report := by
  have reported : (finalReport? (run Simulation.collaborators fourPartitions 5
      ⟨"nodes", .jobCompletion 7⟩ (.start jobWorld))).map Report.readmitted =
        some ["own-0", "fixed-1", "chip-0"] := by
    decide +kernel
  obtain ⟨report, last, done, readmitted⟩ := exists_of_finalReport? reported
  exact ⟨report, last, done, readmitted,
    (run_readmits_deleted_nodes Simulation.collaborators fourPartitions ⟨"nodes", .jobCompletion 7⟩
      jobWorld).1 5 _ last done⟩

end Suspend

end Scaledown
