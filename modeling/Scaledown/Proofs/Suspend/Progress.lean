/-
This file shows that every run ends when its drain and its waits end.
-/

import Scaledown.Proofs.Deletion.Ending
import Scaledown.Proofs.Session.Interruption
import Scaledown.Proofs.Suspend.Stages
import Scaledown.Proofs.Waiting.Ending

namespace Scaledown

open Compute

variable {World : Type} {collaborators : Collaborators World} {world : World}
  {session : Session World}

/-- The collaborators answer, and neither the throttling of fresh hosts nor an operation goes on
forever. -/
structure Progressing (collaborators : Collaborators World) (world : World) : Prop
    extends Answering collaborators world where
  drains : ∀ {events session}, Performs collaborators (.start world) events session →
    (∀ event ∈ events, event.submitted = []) →
      ∀ pacing requests, (Deletion.hostsOf requests).Nodup →
        Ends collaborators world
          (fun patience => Deletion.drain collaborators pacing patience requests) session
  concludes : ∀ {session}, Arrives collaborators world session → ∀ interval operation,
    Ends collaborators world
      (fun patience => Waiting.wait collaborators interval patience operation) session

namespace Scheduler

theorem issue_ends (answering : Answering collaborators world)
    (arrived : Arrives collaborators world session) (nodes : String) (target : Target)
    (reason : Option String) :
    Ends collaborators world (fun _ => NodeStates.issue collaborators nodes target reason)
      session := by
  refine (answering.updateNodes_ends arrived nodes target reason).bind
    fun _ answer _ _ arrived => ?_
  cases answer <;> exact .pure _ arrived

theorem readmit_ends (answering : Answering collaborators world) (hostname : String)
    (states : NodeStates) (arrived : Arrives collaborators world session) :
    Ends collaborators world (fun _ => NodeStates.readmit collaborators hostname states)
      session := by
  unfold NodeStates.readmit
  split
  · exact (issue_ends answering arrived hostname .resume none).bind fun _ _ _ _ arrived =>
      .pure _ arrived
  · exact .pure _ arrived

theorem takeOffline_ends (answering : Answering collaborators world) (expression : String)
    (hostnames : List String) (trigger : Trigger) (states : NodeStates)
    (arrived : Arrives collaborators world session) :
    Ends collaborators world
      (fun _ => NodeStates.takeOffline collaborators expression hostnames trigger states)
      session := by
  cases trigger with
  | idle => exact .pure _ arrived
  | jobCompletion job =>
    refine (issue_ends answering arrived _ _ _).bind fun _ drained _ _ arrived => ?_
    exact (issue_ends answering arrived _ _ _).bind fun _ poweredDown _ _ arrived => .pure _ arrived

end Scheduler

namespace Accelerator

theorem deleteAll_ends (answering : Answering collaborators world)
    (nodes : List (String × String)) (report : Report)
    (arrived : Arrives collaborators world session) :
    Ends collaborators world (fun _ => deleteAll collaborators nodes report) session := by
  induction nodes generalizing report session with
  | nil => exact .pure _ arrived
  | cons node nodes ih =>
    obtain ⟨hostname, zone⟩ := node
    refine (answering.deleteAccelerator_ends arrived hostname zone).bind
      fun _ answer _ _ arrived => ?_
    cases answer <;> exact ih _ arrived

end Accelerator

namespace Location

theorem resolve_ends (answering : Answering collaborators world) (config : Config)
    (hostname : String) (known : Inventories) (arrived : Arrives collaborators world session) :
    Ends collaborators world (fun _ => resolve collaborators config hostname known) session := by
  simp only [resolve_eq]
  cases siteOf config hostname with
  | fixed result => exact .pure _ arrived
  | listed region =>
    refine .bind ?_ fun _ found _ _ arrived => .pure _ arrived
    unfold inventory
    cases known.find? (partitionOf hostname) with
    | some found => exact .pure _ arrived
    | none =>
      exact (answering.listInstances_ends arrived _ _).bind fun _ _ _ _ arrived =>
        .pure _ arrived

end Location

namespace Waiting

theorem confirmAndReadmit_ends (progressing : Progressing collaborators world)
    (interval : Duration) (operations : List (String × Operation)) (report : Report)
    (states : Scheduler.NodeStates) (arrived : Arrives collaborators world session) :
    Ends collaborators world (fun patience =>
      confirmAndReadmit collaborators interval patience operations report states) session := by
  induction operations generalizing report states session with
  | nil => exact .pure _ arrived
  | cons request operations ih =>
    obtain ⟨hostname, operation⟩ := request
    refine Ends.bind ?_ fun _ next _ _ arrived => ih _ _ arrived
    refine (progressing.concludes arrived interval operation).bind fun _ result _ _ arrived => ?_
    cases result with
    | error error => exact .pure _ arrived
    | ok final =>
      exact (Scheduler.readmit_ends progressing.toAnswering hostname states arrived).bind
        fun _ _ _ _ arrived => .pure _ arrived

end Waiting

namespace Placement

theorem deleteGroups_ends (answering : Answering collaborators world) (region : String)
    (names : List String) (report : Report) (arrived : Arrives collaborators world session) :
    Ends collaborators world (fun _ => deleteGroups collaborators region names report)
      session := by
  induction names generalizing report session with
  | nil => exact .pure _ arrived
  | cons name names ih =>
    refine (answering.deleteResourcePolicy_ends arrived region name).bind
      fun _ answer _ _ arrived => ?_
    cases answer with
    | ok operation => exact (ih report arrived).bind fun _ _ _ _ arrived => .pure _ arrived
    | error error => exact ih _ arrived

theorem confirmGroups_ends (progressing : Progressing collaborators world) (interval : Duration)
    (pending : List (String × Operation)) (report : Report)
    (arrived : Arrives collaborators world session) :
    Ends collaborators world
      (fun patience => confirmGroups collaborators interval patience pending report)
      session := by
  induction pending generalizing report session with
  | nil => exact .pure _ arrived
  | cons group pending ih =>
    obtain ⟨name, operation⟩ := group
    refine (progressing.concludes arrived interval operation).bind
      fun _ result _ _ arrived => ?_
    cases result <;> exact ih _ arrived

/-- The deletion of placement groups ends after all operations of hosts. -/
theorem cleanup_ends (progressing : Progressing collaborators world) (interval : Duration)
    (region : String) (names : List String) (arrived : Arrives collaborators world session) :
    Ends collaborators world (fun patience => cleanup collaborators interval patience region names)
      session :=
  (deleteGroups_ends progressing.toAnswering region names .empty arrived).bind
    fun _ _ _ _ arrived => confirmGroups_ends progressing interval _ _ arrived

end Placement

namespace Suspend

open Deletion Scheduler

theorem locateAll_ends (answering : Answering collaborators world) (config : Config)
    (hostnames : List String) (known : Location.Inventories) (located : Located)
    (arrived : Arrives collaborators world session) :
    Ends collaborators world (fun _ => locateAll collaborators config hostnames known located)
      session := by
  induction hostnames generalizing known located session with
  | nil => exact .pure _ arrived
  | cons hostname hostnames ih =>
    exact (Location.resolve_ends answering config hostname known arrived).bind
      fun _ _ _ _ arrived => ih _ _ arrived

theorem readmitAll_ends (answering : Answering collaborators world)
    (hostnames readmitted : List String) (states : NodeStates)
    (arrived : Arrives collaborators world session) :
    Ends collaborators world (fun _ => readmitAll collaborators hostnames readmitted states)
      session := by
  induction hostnames generalizing readmitted states session with
  | nil => exact .pure _ arrived
  | cons hostname hostnames ih =>
    exact (readmit_ends answering hostname states arrived).bind fun _ _ _ _ arrived =>
      ih _ _ arrived

theorem cleanPlacement_ends (progressing : Progressing collaborators world) (config : Config)
    (interval : Duration) (trigger : Trigger) (hostnames : List String)
    (arrived : Arrives collaborators world session) :
    Ends collaborators world
      (fun patience => cleanPlacement collaborators config interval patience trigger hostnames)
      session := by
  simp only [cleanPlacement_eq]
  cases groupsOf? config trigger hostnames with
  | none => exact .pure _ arrived
  | some groups => exact Placement.cleanup_ends progressing interval groups.1 groups.2 arrived

/-- No host is submitted before the drain. -/
theorem submitted_of_located (expression : String) (down powerDown : Answer)
    (trigger : Trigger) (removals : List Accelerator.Removal)
    (listings : List Location.Listing) :
    ∀ event ∈ offlineOrders expression down powerDown trigger ++
      removals.map Accelerator.Removal.event ++ listings.map Location.Listing.event,
      event.submitted = [] := by
  intro event inside
  simp only [List.mem_append, List.mem_map] at inside
  rcases inside with (ordered | ⟨removal, -, rfl⟩) | ⟨listing, -, rfl⟩
  · obtain ⟨target, reason, answer, -, rfl⟩ := target_of_mem_offlineOrders ordered
    rfl
  · rfl
  · rfl

/-- A run whose nodes were never submitted before ends. -/
theorem decommission_ends (progressing : Progressing collaborators world) (config : Config)
    (pause interval : Duration) (request : Request) {hostnames : List String}
    (distinct : hostnames.Nodup) {events : List Event}
    (reached : Performs collaborators (.start world) events session)
    (quiet : ∀ event ∈ events, event.submitted = []) :
    Ends collaborators world (fun patience =>
      decommission collaborators config pause interval patience request hostnames) session := by
  unfold decommission
  simp only [classify_eq config distinct, Classes.ofHostnames, select_eq]
  obtain ⟨removable, standing, -⟩ := ways_hosts config distinct
  have answering := progressing.toAnswering
  refine (takeOffline_ends answering _ _ _ _ ⟨_, reached⟩).bind
    fun _ states _ offline arrived => ?_
  refine (Accelerator.deleteAll_ends answering _ _ arrived).bind
    fun _ accelerated _ removed arrived => ?_
  refine (locateAll_ends answering config _ _ _ arrived).bind
    fun _ located _ looked arrived => ?_
  obtain ⟨down, powerDown, ordering, -⟩ := takeOffline_performs distinct offline
  obtain ⟨removals, -, removing, -⟩ :=
    Accelerator.deleteAll_performs [] (by simpa using removable) removed
  obtain ⟨sightings, listings, -, sighted, listing, rfl, -⟩ :=
    locateAll_performs [] (by simpa using standing.filter _) looked
  have requested := (requested_hosts (sighted ▸ standing.filter _)).1
  have searched := reached.trans ((ordering.trans removing).trans listing)
  refine (progressing.drains searched ?_ _ _ requested).bind fun _ deletion _ _ arrived => ?_
  · intro event inside
    rcases List.mem_append.1 inside with before | here
    · exact quiet event before
    · exact submitted_of_located _ _ _ _ _ _ event here
  refine (Waiting.confirmAndReadmit_ends progressing interval _ _ _ arrived).bind
    fun _ settled _ _ arrived => ?_
  refine (readmitAll_ends answering _ _ _ arrived).bind fun _ returned _ _ arrived => ?_
  exact (cleanPlacement_ends progressing config interval _ _ arrived).bind fun _ _ _ _ arrived =>
    .pure _ arrived

/-- A run whose hostlist gets an answer ends. -/
theorem run_ends (progressing : Progressing collaborators world) (config : Config)
    (request : Request) {answer : Except Scheduler.Error (List String)} {after : World}
    (expands : collaborators.scheduler.expandHostlist request.hostlist world =
      some (answer, after)) :
    Ends collaborators world (fun patience => run collaborators config patience request)
      (.start world) := by
  have called : collaborators.expandHostlist request.hostlist (.start world) = _ :=
    Step.call_eq_some expands
  have reached := Collaborators.expandHostlist_performs called
  have arrived : Arrives collaborators world (.start world) := ⟨[], .nothing _⟩
  cases pausing : config.batchPause with
  | error error =>
    simp only [run, pausing]
    exact .pure _ arrived
  | ok pause =>
    cases polling : config.operationPollInterval with
    | error error =>
      simp only [run, pausing, polling]
      exact .pure _ arrived
    | ok interval =>
      simp only [run, pausing, polling]
      refine (Ends.of_eq_some ⟨_, reached⟩ called).bind fun _ expanded middle again _ => ?_
      have performed := Collaborators.expandHostlist_performs again
      cases expanded with
      | error error => exact .pure _ ⟨_, performed⟩
      | ok expanded =>
        dsimp only
        split
        · exact .pure _ ⟨_, performed⟩
        · refine Ends.bind ?_ fun _ report _ _ arrived => .pure _ arrived
          exact decommission_ends progressing config pause interval request
            (nodup_distinct expanded) performed (by simp [Event.submitted])

/-- A round that throttles a host has used up answers. -/
theorem interrupted_roundsComeNearer (collaborators : Collaborators World) :
    RoundsComeNearer collaborators.interrupted
      fun needed _ session => session.world.calls = needed := by
  rintro needed round start rested - rfl performed throttled
  obtain ⟨request, inside⟩ := List.exists_mem_of_ne_nil _ throttled
  obtain ⟨message, refused⟩ := (mem_throttledOf_iff _ _).1 inside
  obtain ⟨submission, present, given⟩ := List.mem_flatMap.1 refused
  obtain ⟨other, -, same⟩ := List.mem_map.1 given
  refine ⟨_, performed.calls_lt (List.mem_map_of_mem present) ?_, rfl⟩
  cases answer : submission.answer with
  | ok outcomes => simp [Submission.event, Event.isOk, answer, Except.isOk, Except.toBool]
  | error error => simp [Submission.outcome, answer] at same

theorem interrupted_pollsComeNearer (collaborators : Collaborators World) :
    Waiting.PollsComeNearer collaborators.interrupted
      fun needed _ session => session.world.calls = needed := by
  rintro needed operation latest start rested - rfl polled -
  exact ⟨_, polled.calls_lt List.mem_cons_self rfl, rfl⟩

/-- Every interrupted run ends. -/
theorem run_interrupted_ends (collaborators : Collaborators World) (config : Config)
    (request : Request) (state : Interrupted World) :
    Ends collaborators.interrupted state
      (fun patience => run collaborators.interrupted config patience request) (.start state) := by
  have answering := answering_interrupted collaborators state
  have progressing : Progressing collaborators.interrupted state := {
    answering with
    drains := fun reached _ pacing requests distinct =>
      drain_ends answering pacing (interrupted_roundsComeNearer collaborators) ⟨_, reached⟩
        distinct rfl
    concludes := fun arrived interval operation =>
      Waiting.wait_ends answering interval (interrupted_pollsComeNearer collaborators) arrived
        rfl }
  obtain ⟨answer, after, expands⟩ : ∃ answer after,
      collaborators.interrupted.scheduler.expandHostlist request.hostlist state =
        some (answer, after) := Reply.exists_interrupted _ _ _
  exact run_ends progressing config request expands

/-- A law holds for the calls and the result of every run that ends. It also holds after any
number of calls of a run, even if the run has no end. -/
structure HoldsThroughout (collaborators : Collaborators World) (config : Config)
    (request : Request) (world : World)
    (law : List Event → Except Error Report → Prop) : Prop where
  ended : ∀ patience result last,
    run collaborators config patience request (.start world) = some (result, last) →
      law last.events result
  interrupted : ∀ calls, ∃ result last bound,
    (∀ patience, bound ≤ patience →
      run collaborators.interrupted config patience request (.start ⟨calls, world⟩) =
        some (result, last)) ∧
      law last.events result

/-- A law of all endings holds throughout every run. -/
theorem HoldsThroughout.of_ending {config : Config} {request : Request}
    {law : List Event → Except Error Report → Prop}
    (holds : ∀ events result, Ending config request events result → law events result) :
    HoldsThroughout collaborators config request world law := by
  refine ⟨fun patience result last done => ?_, fun calls => ?_⟩
  · obtain ⟨events, ending, performed⟩ := run_performs done
    rw [show last.events = events from performed.events_eq]
    exact holds events result ending
  · obtain ⟨result, last, bound, -, ended⟩ :=
      run_interrupted_ends collaborators config request ⟨calls, world⟩
    obtain ⟨events, ending, performed⟩ := run_performs (ended bound le_rfl)
    refine ⟨result, last, bound, ended, ?_⟩
    rw [show last.events = events from performed.events_eq]
    exact holds events result ending

end Suspend

end Scaledown
