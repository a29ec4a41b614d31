/-
This file shows that a run treats each host as if it were alone.
-/

import Scaledown.Proofs.Suspend.Disposition

namespace Scaledown

open Compute Deletion Suspend

/-- A ledger counts the submissions of hosts and the polls of operations. -/
structure Ledger where
  submitted : List String
  polled : List String

namespace LocalAnswers

variable (answers : LocalAnswers)

/-- Each request of a batch has its own outcome. -/
def answerBatch (ledger : Ledger) (batch : List DeleteRequest) : BatchOutcome :=
  batch.filterMap fun request =>
    (answers.outcome request.hostname (ledger.submitted.count request.hostname)).map fun outcome =>
      (request.hostname, outcome)

/-- These collaborators give local answers and expand every hostlist to the same hosts. -/
def collaborators (hosts : List String) : Collaborators Ledger where
  provider := {
    deleteInstances := fun _ batch ledger => some (.ok (answers.answerBatch ledger batch),
      { ledger with submitted := ledger.submitted ++ hostsOf batch })
    waitOperation := fun _ operation ledger =>
      some (answers.poll operation.name (ledger.polled.count operation.name),
        { ledger with polled := ledger.polled ++ [operation.name] })
    listInstances := fun _ region namePart ledger => some (answers.listing region namePart, ledger)
    deleteResourcePolicy := fun _ _ name ledger => some (.ok (.pending name), ledger) }
  scheduler := {
    expandHostlist := fun _ ledger => some (.ok hosts, ledger)
    updateNodes := fun nodes target _ ledger => some (answers.update nodes target, ledger) }
  accelerator := {
    delete := fun node zone ledger => some (answers.accelerator node zone, ledger) }

/-- A host finds its own outcome in the answer to a batch. -/
theorem find?_answerBatch (ledger : Ledger) (batch : List DeleteRequest) (host : String) :
    (answers.answerBatch ledger batch).find? host =
      if host ∈ hostsOf batch then answers.outcome host (ledger.submitted.count host)
      else none :=
  find?_answerByHost (fun host => answers.outcome host (ledger.submitted.count host)) batch host

/-- The ledger counts the calls of a run. -/
theorem ledger_performs {hosts : List String} {events : List Event}
    {session last : Session Ledger}
    (performed : Performs (answers.collaborators hosts) session events last) :
    last.world.submitted = session.world.submitted ++ events.flatMap Event.submitted ∧
      last.world.polled = session.world.polled ++ events.filterMap Event.polled? := by
  induction performed with
  | nothing => simp
  | sleep _ _ ih => exact ih
  | @call session last event events world answered rest ih =>
    obtain ⟨submitted, polled⟩ := ih
    cases event <;>
      · obtain ⟨-, rfl⟩ := Prod.mk.inj (Option.some.inj answered)
        simp [submitted, polled, Session.record, Event.submitted, Event.polled?, hostsOf,
          List.filterMap_cons]

theorem hostLocal_collaborators (hosts : List String) :
    HostLocal (answers.collaborators hosts) answers ⟨[], []⟩ where
  deletes := by
    intro events session reached batch distinct
    obtain ⟨submitted, -⟩ := answers.ledger_performs reached
    refine ⟨_, _, rfl, fun host inside => ?_⟩
    rw [find?_answerBatch, if_pos inside, submitted]
    rfl
  waits := by
    intro events session reached operation
    obtain ⟨-, polled⟩ := answers.ledger_performs reached
    refine ⟨{ session.world with polled := session.world.polled ++ [operation.name] }, ?_⟩
    change some (answers.poll operation.name (session.world.polled.count operation.name), _) = _
    rw [polled]
    rfl
  lists _ _ _ := ⟨_, rfl⟩
  groups _ _ _ := ⟨_, _, rfl⟩
  updates _ _ _ _ := ⟨_, rfl⟩
  removes _ _ _ := ⟨_, rfl⟩

end LocalAnswers

/-- Local answers come, and they end every drain of fresh hosts and every wait. -/
theorem HostLocal.progressing {World : Type} {collaborators : Collaborators World}
    {answers : LocalAnswers} {world : World} (here : HostLocal collaborators answers world) :
    Progressing collaborators world where
  toAnswering := here.answering
  drains := by
    intro events session reached quiet pacing requests distinct
    obtain ⟨needed, soon⟩ := calmSoon_of_fresh answers reached
      fun host (_ : host ∈ hostsOf requests) => timesSubmitted_eq_zero quiet host
    exact drain_ends here.answering pacing (calmSoon_nearer here) ⟨events, reached⟩ distinct soon
  concludes := by
    intro session arrived interval operation
    obtain ⟨needed, soon⟩ := Waiting.exists_doneSoon answers operation arrived
    exact Waiting.wait_ends here.answering interval (Waiting.doneSoon_nearer here) arrived soon

namespace Suspend

variable {World : Type} {collaborators : Collaborators World}

/-- After an expansion that is not left to the epilog a run decommissions its nodes. -/
theorem run_of_decommission {config : Config} {pause interval : Duration}
    {request : Request} {expanded : List String} {patience : Nat} {report : Report}
    {session middle last : Session World} (pausing : config.batchPause = .ok pause)
    (polling : config.operationPollInterval = .ok interval)
    (called : collaborators.expandHostlist request.hostlist session =
      some (.ok expanded, middle))
    (unhandled : epilogHandles config (distinct expanded) request.trigger = false)
    (done : decommission collaborators config pause interval patience request
      (distinct expanded) middle = some (report, last)) :
    run collaborators config patience request session = some (.ok report, last) := by
  simp only [run, pausing, polling]
  refine Step.bind_eq_some.2 ⟨.ok expanded, middle, called, ?_⟩
  simp only [unhandled, Bool.false_eq_true, if_false]
  exact Step.bind_eq_some.2 ⟨report, last, done, rfl⟩

/-- When all answers are local, every run of enough patience ends, and its report has for each
host of the expansion exactly the disposition that this host has alone. -/
theorem run_treats_each_host_alone {answers : LocalAnswers} {world after : World}
    (here : HostLocal collaborators answers world) {config : Config} {pause interval : Duration}
    {request : Request} {expanded : List String} (pausing : config.batchPause = .ok pause)
    (polling : config.operationPollInterval = .ok interval)
    (expands : collaborators.scheduler.expandHostlist request.hostlist world =
      some (.ok expanded, after))
    (unhandled : epilogHandles config (distinct expanded) request.trigger = false) :
    ∃ report last bound,
      (∀ patience, bound ≤ patience →
        run collaborators config patience request (.start world) = some (.ok report, last)) ∧
      ∀ host, report.dispositions host =
        if host ∈ expanded then [answers.disposition config request host] else [] := by
  have called : collaborators.expandHostlist request.hostlist (.start world) = _ :=
    Step.call_eq_some expands
  have reached := Collaborators.expandHostlist_performs called
  obtain ⟨report, last, bound, -, ended⟩ := decommission_ends here.progressing config pause
    interval request (nodup_distinct expanded) reached (by simp [Event.submitted])
  obtain ⟨stages, performed, rfl⟩ :=
    decommission_performs (nodup_distinct expanded) (ended bound le_rfl)
  have answered : stages.Answered answers [.expandHostlist request.hostlist (.ok expanded)] :=
    ⟨(here.justified (reached.trans performed)).of_append.2, fun _ => rfl, fun _ => rfl⟩
  refine ⟨stages.report, last, bound, fun patience enough => ?_, fun host => ?_⟩
  · exact run_of_decommission pausing polling called unhandled (ended patience enough)
  · rw [answered.dispositions_eq]
    simp only [mem_distinct]

/-- A batch throttles one node once, leaves one out of every answer and refuses one. -/
def mixedOutcome (host : String) (time : Nat) : Option Outcome :=
  if host = "fixed-1" ∧ time = 0 then some (.throttled "rate limit exceeded")
  else if host = "fixed-2" then none
  else if host = "fixed-3" then some (.failed "not found")
  else some (.accepted (.pending host))

/-- One operation ends with error items of all kinds, one cannot be polled, and every other one
needs two polls. -/
def mixedPoll (name : String) (time : Nat) : Except Compute.Error Operation :=
  if name = "fixed-4" then .ok { Operation.pending name with
    status := .done
    faults := some [⟨some "QUOTA", some "limit reached"⟩, ⟨none, some "backend error"⟩,
      ⟨some "BUSY", none⟩, ⟨none, none⟩] }
  else if name = "fixed-5" then .error (.rejected 503 "backend error")
  else .ok { Operation.pending name with status := if time = 0 then .running else .done }

theorem eq_pending_of_mixedOutcome {host : String} {time : Nat} {operation : Operation}
    (accepted : mixedOutcome host time = some (.accepted operation)) :
    operation = .pending host := by
  unfold mixedOutcome at accepted
  split_ifs at accepted
  · cases accepted
  · cases accepted
  · cases accepted
    rfl

/-- One region cannot be listed, one accelerator cannot be deleted, and one node is not resumed. -/
def mixedAnswers : LocalAnswers where
  listing region _ :=
    if region = "us" then .ok [⟨"wide-1", "zones/us-b", none⟩]
    else .error (.rejected 403 "forbidden")
  outcome := mixedOutcome
  poll := mixedPoll
  accelerator node _ := if node = "chip-1" then .error "quota" else .ok ()
  update nodes _ := if nodes = "fixed-6" then .error (.notStarted "scontrol" "refused") else .ok ()
  ownNames := by
    intro host other time later one two apart first second
    rw [eq_pending_of_mixedOutcome first, eq_pending_of_mixedOutcome second]
    exact apart
  keepsName := by
    intro name time latest polled
    unfold mixedPoll at polled
    split_ifs at polled <;>
      · cases polled
        rfl
  throttlingEnds host := by
    refine ⟨1, fun time late message => ?_⟩
    unfold mixedOutcome
    rw [if_neg (by omega)]
    split_ifs <;> simp
  pollingEnds name start := by
    refine ⟨start + 1, by omega, ?_⟩
    unfold mixedPoll
    rw [if_neg (Nat.succ_ne_zero start)]
    split_ifs <;> rfl

/-- Two more partitions lack what they need. -/
def sixPartitions : Config :=
  { fourPartitions with
    partitions := fourPartitions.partitions ++
      [("far", { Partition.empty with region := some "eu", regionalCapacity := true }),
       ("loose", { Partition.empty with acceleratorType := some "v4" })] }

def mixedHosts : List String :=
  ["fixed-0", "fixed-1", "fixed-2", "fixed-0", "fixed-3", "fixed-4", "fixed-5", "fixed-6", "chip-0",
    "chip-1", "loose-0", "own-0", "wide-0", "wide-1", "far-0", "other-0"]

theorem run_treats_each_host_alone_mixedAnswers :
    ∃ report last bound,
      (∀ patience, bound ≤ patience →
        run (mixedAnswers.collaborators mixedHosts) sixPartitions patience ⟨"nodes", .idle⟩
          (.start ⟨[], []⟩) = some (.ok report, last)) ∧
      ["fixed-0", "fixed-1", "fixed-2", "fixed-3", "fixed-4", "fixed-5", "fixed-6"].map
          report.dispositions =
        [[.deleted true], [.deleted true], [.failed "no outcome returned"], [.failed "not found"],
          [.failed ("operation fixed-4 failed: " ++
            "QUOTA: limit reached; backend error; BUSY; unknown error")],
          [.failed "compute error: compute api returned 503: backend error"], [.deleted false]] ∧
      ["chip-0", "chip-1", "loose-0"].map report.dispositions =
        [[.deleted true], [.failed "accelerator delete of chip-1 failed: quota"],
          [.failed "accelerator partition has no zone"]] ∧
      ["own-0", "wide-0", "wide-1", "far-0", "other-0", "fixed-7"].map report.dispositions =
        [[.skipped], [.absent], [.deleted true],
          [.failed ("inventory lookup for partition far failed: " ++
            "compute api returned 403: forbidden")],
          [.failed "no instance definition for partition: other"], []] := by
  obtain ⟨report, last, bound, ended, alone⟩ :=
    @run_treats_each_host_alone _ _ _ _ _ (mixedAnswers.hostLocal_collaborators mixedHosts)
      sixPartitions _ _ ⟨"nodes", .idle⟩ _ rfl rfl rfl rfl
  refine ⟨report, last, bound, ended, ?_⟩
  rw [funext alone]
  decide +kernel

end Suspend

end Scaledown
