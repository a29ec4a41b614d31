/-
This file describes a round by its batches and the outcomes that it records.
-/

import Scaledown.Deletion.Round
import Scaledown.Proofs.Deletion.RetryQueue
import Scaledown.Proofs.Session.Trace
import Scaledown.Proofs.Table

namespace Scaledown

/-- The hosts of a batch are submitted with it. -/
def Event.submitted : Event → List String
  | .deleteInstances batch _ => batch.map Compute.DeleteRequest.hostname
  | _ => []

namespace Deletion

open Compute

/-- A submission is a batch with the answer of the provider. -/
structure Submission where
  batch : List DeleteRequest
  answer : Except Compute.Error BatchOutcome

/-- A verdict is a request with the outcome that is recorded for it. -/
abbrev Verdict := DeleteRequest × Outcome

namespace Verdict

def accepted? : Verdict → Option (String × Operation)
  | (request, .accepted operation) => some (request.hostname, operation)
  | _ => none

def throttled? : Verdict → Option DeleteRequest
  | (request, .throttled _) => some request
  | _ => none

def failed? : Verdict → Option (String × String)
  | (request, .failed message) => some (request.hostname, message)
  | _ => none

theorem accepted?_eq_some {verdict : Verdict} {entry : String × Operation} :
    verdict.accepted? = some entry ↔
      verdict.1.hostname = entry.1 ∧ verdict.2 = .accepted entry.2 := by
  obtain ⟨request, outcome⟩ := verdict
  cases outcome <;> simp [accepted?, Prod.ext_iff]

theorem throttled?_eq_some {verdict : Verdict} {request : DeleteRequest} :
    verdict.throttled? = some request ↔
      ∃ message, verdict = (request, .throttled message) := by
  obtain ⟨other, outcome⟩ := verdict
  cases outcome <;> simp [throttled?]

theorem failed?_eq_some {verdict : Verdict} {entry : String × String} :
    verdict.failed? = some entry ↔
      verdict.1.hostname = entry.1 ∧ verdict.2 = .failed entry.2 := by
  obtain ⟨request, outcome⟩ := verdict
  cases outcome <;> simp [failed?, Prod.ext_iff]

end Verdict

namespace Submission

def event (submission : Submission) : Event :=
  .deleteInstances submission.batch submission.answer

/-- A missing outcome and a refused batch count as failures. -/
def outcome (submission : Submission) (hostname : String) : Outcome :=
  match submission.answer with
  | .ok outcomes => (outcomes.find? hostname).getD (.failed "no outcome returned")
  | .error error => .failed ("batch submission failed: " ++ error.message)

def verdicts (submission : Submission) : List Verdict :=
  submission.batch.map fun request => (request, submission.outcome request.hostname)

/-- Only the answer itself accepts a host. -/
theorem outcome_eq_accepted {submission : Submission} {hostname : String}
    {operation : Operation} :
    submission.outcome hostname = .accepted operation ↔ ∃ outcomes,
      submission.answer = .ok outcomes ∧
        outcomes.find? hostname = some (.accepted operation) := by
  unfold outcome
  cases submission.answer with
  | error error => simp
  | ok outcomes => cases found : outcomes.find? hostname <;> simp [found]

/-- A refused batch fails its hosts, and an answer fails those that it refuses or leaves out. -/
theorem outcome_eq_failed {submission : Submission} {hostname reason : String}
    (failed : submission.outcome hostname = .failed reason) :
    (∃ error, submission.answer = .error error ∧
        "batch submission failed: " ++ error.message = reason) ∨
      ∃ outcomes, submission.answer = .ok outcomes ∧
        (outcomes.find? hostname = none ∧ "no outcome returned" = reason ∨
          outcomes.find? hostname = some (.failed reason)) := by
  unfold outcome at failed
  cases answered : submission.answer with
  | error error =>
    rw [answered] at failed
    exact .inl ⟨error, rfl, Outcome.failed.inj failed⟩
  | ok outcomes =>
    simp only [answered] at failed
    cases found : outcomes.find? hostname with
    | none =>
      rw [found, Option.getD_none] at failed
      exact .inr ⟨outcomes, rfl, .inl ⟨found, Outcome.failed.inj failed⟩⟩
    | some held =>
      rw [found, Option.getD_some] at failed
      exact .inr ⟨outcomes, rfl, .inr (failed ▸ found)⟩

end Submission

/-- The requests of a round are those of its batches in order. -/
def requestsOf (submissions : List Submission) : List DeleteRequest :=
  submissions.flatMap Submission.batch

def verdictsOf (submissions : List Submission) : List Verdict :=
  submissions.flatMap Submission.verdicts

/-- These requests of a round are worth another round. -/
def throttledOf (submissions : List Submission) : List DeleteRequest :=
  (verdictsOf submissions).filterMap Verdict.throttled?

def acceptedOf (submissions : List Submission) : List (String × Operation) :=
  (verdictsOf submissions).filterMap Verdict.accepted?

def failedOf (submissions : List Submission) : List (String × String) :=
  (verdictsOf submissions).filterMap Verdict.failed?

def hostsOf (requests : List DeleteRequest) : List String :=
  requests.map DeleteRequest.hostname

theorem hostsOf_append (former latter : List DeleteRequest) :
    hostsOf (former ++ latter) = hostsOf former ++ hostsOf latter :=
  List.map_append

/-- A round keeps the outcomes of its submissions apart by their kind. -/
def Round.ofSubmissions (submissions : List Submission) : Round where
  accepted := acceptedOf submissions
  retry := RetryQueue.empty.pushAll (hostsOf (throttledOf submissions))
  failed := failedOf submissions
  batchSizes := submissions.map fun submission => submission.batch.length

theorem map_fst_verdictsOf (submissions : List Submission) :
    (verdictsOf submissions).map Prod.fst = requestsOf submissions := by
  simp [verdictsOf, requestsOf, Submission.verdicts, List.map_flatMap, Function.comp_def]

/-- The throttled requests keep their order and their zones. -/
theorem throttledOf_sublist (submissions : List Submission) :
    (throttledOf submissions).Sublist (requestsOf submissions) := by
  rw [← map_fst_verdictsOf, throttledOf]
  induction verdictsOf submissions with
  | nil => simp
  | cons verdict verdicts ih =>
    obtain ⟨request, outcome⟩ := verdict
    cases outcome with
    | accepted operation => exact ih.cons _
    | throttled message => exact ih.cons_cons _
    | failed message => exact ih.cons _

/-- A throttled request stands in the verdicts of its round. -/
theorem mem_throttledOf_iff (submissions : List Submission) (request : DeleteRequest) :
    request ∈ throttledOf submissions ↔
      ∃ message, (request, Outcome.throttled message) ∈ verdictsOf submissions := by
  simp only [throttledOf, List.mem_filterMap, Verdict.throttled?_eq_some]
  constructor
  · rintro ⟨verdict, inside, message, rfl⟩
    exact ⟨message, inside⟩
  · rintro ⟨message, inside⟩
    exact ⟨_, inside, message, rfl⟩

/-- Every request of a round is accepted, throttled or failed. -/
theorem verdicts_divide (submissions : List Submission) :
    ((acceptedOf submissions).map Prod.fst ++ hostsOf (throttledOf submissions) ++
      (failedOf submissions).map Prod.fst).Perm (hostsOf (requestsOf submissions)) := by
  have divided := filterMap_divide_perm (fun verdict : Verdict => verdict.1.hostname)
    (fun verdict => verdict.accepted?.map Prod.fst)
    (fun verdict => verdict.throttled?.map DeleteRequest.hostname)
    (fun verdict => verdict.failed?.map Prod.fst) (verdictsOf submissions) (by
      rintro ⟨request, outcome⟩ -
      cases outcome <;> rfl)
  simpa only [acceptedOf, throttledOf, failedOf, hostsOf, ← map_fst_verdictsOf,
    List.map_filterMap, List.map_map, Function.comp_def] using divided

/-- An accepted host was in a batch whose answer accepts it. -/
theorem exists_of_mem_acceptedOf {submissions : List Submission} {host : String}
    {operation : Operation} (inside : (host, operation) ∈ acceptedOf submissions) :
    ∃ submission ∈ submissions, ∃ outcomes, submission.answer = .ok outcomes ∧
      host ∈ hostsOf submission.batch ∧ outcomes.find? host = some (.accepted operation) := by
  obtain ⟨verdict, recorded, accepted⟩ := List.mem_filterMap.1 inside
  obtain ⟨submission, present, held⟩ := List.mem_flatMap.1 recorded
  obtain ⟨request, asked, rfl⟩ := List.mem_map.1 held
  obtain ⟨rfl, outcome⟩ := Verdict.accepted?_eq_some.1 accepted
  obtain ⟨outcomes, answered, found⟩ := Submission.outcome_eq_accepted.1 outcome
  exact ⟨submission, present, outcomes, answered, List.mem_map_of_mem asked, found⟩

/-- A failed host was in a batch that records its failure. -/
theorem exists_of_mem_failedOf {submissions : List Submission} {host reason : String}
    (inside : (host, reason) ∈ failedOf submissions) :
    ∃ submission ∈ submissions, host ∈ hostsOf submission.batch ∧
      submission.outcome host = .failed reason := by
  obtain ⟨verdict, recorded, failed⟩ := List.mem_filterMap.1 inside
  obtain ⟨submission, present, held⟩ := List.mem_flatMap.1 recorded
  obtain ⟨request, asked, rfl⟩ := List.mem_map.1 held
  obtain ⟨rfl, outcome⟩ := Verdict.failed?_eq_some.1 failed
  exact ⟨submission, present, List.mem_map_of_mem asked, outcome⟩

/-- The batches of a round hold its requests in order. -/
theorem flatten_batches {α : Type} (limit : Nat) (requests : List α) :
    (batches limit requests).flatten = requests := by
  fun_induction batches limit requests with
  | case1 => rfl
  | case2 requests nonempty ih => rw [List.flatten_cons, ih, List.take_append_drop]

theorem ne_nil_of_mem_batches {α : Type} {limit : Nat} {requests : List α} :
    ∀ batch ∈ batches limit requests, batch ≠ [] := by
  fun_induction batches limit requests with
  | case1 => simp
  | case2 requests nonempty ih =>
    refine List.forall_mem_cons.2 ⟨?_, ih⟩
    simp [List.take_eq_nil_iff, nonempty]

namespace Round

/-- This function adds verdicts to a round one by one. -/
def addVerdicts (round : Round) (verdicts : List Verdict) : Round :=
  { round with
    accepted := round.accepted ++ verdicts.filterMap Verdict.accepted?
    retry := round.retry.pushAll (hostsOf (verdicts.filterMap Verdict.throttled?))
    failed := round.failed ++ verdicts.filterMap Verdict.failed? }

/-- A host is settled by its verdict. -/
theorem settle_eq_addVerdicts (round : Round) (request : DeleteRequest)
    (found : Option Outcome) :
    round.settle request.hostname found =
      round.addVerdicts [(request, found.getD (.failed "no outcome returned"))] := by
  cases found with
  | none =>
    simp [settle, addVerdicts, List.filterMap_cons, Verdict.accepted?, Verdict.throttled?,
      Verdict.failed?, hostsOf]
  | some outcome =>
    cases outcome <;>
      simp [settle, addVerdicts, List.filterMap_cons, Verdict.accepted?, Verdict.throttled?,
        Verdict.failed?, hostsOf]

theorem addVerdicts_append (round : Round) (former latter : List Verdict) :
    round.addVerdicts (former ++ latter) = (round.addVerdicts former).addVerdicts latter := by
  simp [addVerdicts, hostsOf, RetryQueue.pushAll_append]

/-- Distinct hosts take their own outcomes out of an answer. -/
theorem settleAll_eq_addVerdicts {batch : List DeleteRequest} (outcomes : BatchOutcome)
    {round : Round} (distinct : (hostsOf batch).Nodup) :
    round.settleAll batch outcomes =
      round.addVerdicts (Submission.verdicts ⟨batch, .ok outcomes⟩) := by
  induction batch generalizing outcomes round with
  | nil => simp [settleAll, addVerdicts, Submission.verdicts, hostsOf]
  | cons request batch ih =>
    obtain ⟨apart, distinct⟩ := List.nodup_cons.1 distinct
    have kept : ∀ other ∈ batch,
        (outcomes.erase request.hostname).find? other.hostname =
          outcomes.find? other.hostname := by
      intro other inside
      apply Table.find?_erase_of_ne
      intro same
      exact apart (same ▸ List.mem_map_of_mem inside)
    rw [settleAll, ih _ distinct, settle_eq_addVerdicts, ← addVerdicts_append]
    congr 1
    simp only [Submission.verdicts, Submission.outcome, List.map_cons, List.cons_append,
      List.nil_append]
    congr 1
    apply List.map_congr_left
    intro other inside
    rw [kept other inside]

theorem failAll_eq_addVerdicts (round : Round) (batch : List DeleteRequest)
    (error : Compute.Error) :
    round.failAll error batch =
      round.addVerdicts (Submission.verdicts ⟨batch, .error error⟩) := by
  simp [failAll, addVerdicts, Submission.verdicts, Submission.outcome, Verdict.accepted?,
    Verdict.throttled?, Verdict.failed?, hostsOf, List.filterMap_map, Function.comp_def]

/-- One more submission adds its size and its verdicts to a round. -/
theorem ofSubmissions_concat (earlier : List Submission) (submission : Submission) :
    ofSubmissions (earlier ++ [submission]) =
      { ofSubmissions earlier with
        batchSizes := (ofSubmissions earlier).batchSizes ++ [submission.batch.length] }.addVerdicts
          submission.verdicts := by
  simp [ofSubmissions, addVerdicts, acceptedOf, throttledOf, failedOf, verdictsOf, hostsOf,
    RetryQueue.pushAll_append]

end Round

variable {World : Type} {collaborators : Collaborators World} {session last : Session World}

/-- A batch is submitted when it is answered, whatever its answer is. -/
theorem submitBatch_of_replied {batch : List DeleteRequest}
    {answer : Except Compute.Error BatchOutcome} {world : World} (round : Round)
    (replied : collaborators.provider.deleteInstances session.time batch session.world =
      some (answer, world)) :
    ∃ next, submitBatch collaborators batch round session =
      some (next, session.record (Submission.event ⟨batch, answer⟩) world) := by
  have called : collaborators.deleteInstances batch session = _ := Step.call_eq_some replied
  cases answer with
  | ok outcomes => exact ⟨_, Step.bind_eq_some.2 ⟨_, _, called, rfl⟩⟩
  | error error => exact ⟨_, Step.bind_eq_some.2 ⟨_, _, called, rfl⟩⟩

/-- A batch of distinct hosts is one call, and its verdicts join the round. -/
theorem submitBatch_performs {batch : List DeleteRequest} {earlier : List Submission}
    {round : Round} (distinct : (hostsOf batch).Nodup)
    (done : submitBatch collaborators batch (.ofSubmissions earlier) session =
      some (round, last)) :
    ∃ answer, Performs collaborators session [Submission.event ⟨batch, answer⟩] last ∧
      round = .ofSubmissions (earlier ++ [⟨batch, answer⟩]) := by
  simp only [submitBatch, Step.bind_eq_some] at done
  obtain ⟨answer, middle, asked, settled⟩ := done
  refine ⟨answer, ?_, ?_⟩
  · cases answer <;>
      · obtain ⟨-, rfl⟩ := Step.pure_eq_some.1 settled
        exact Collaborators.deleteInstances_performs asked
  · rw [Round.ofSubmissions_concat]
    cases answer with
    | ok outcomes =>
      obtain ⟨rfl, -⟩ := Step.pure_eq_some.1 settled
      exact Round.settleAll_eq_addVerdicts outcomes distinct
    | error error =>
      obtain ⟨rfl, -⟩ := Step.pure_eq_some.1 settled
      exact Round.failAll_eq_addVerdicts _ batch error

theorem submitPaused_performs {pause : Duration} {rest : List (List DeleteRequest)}
    {earlier : List Submission} {round : Round}
    (distinct : (hostsOf rest.flatten).Nodup)
    (done : submitPaused collaborators pause rest (.ofSubmissions earlier) session =
      some (round, last)) :
    ∃ later : List Submission, later.map Submission.batch = rest ∧
      Performs collaborators session (later.map Submission.event) last ∧
      round = .ofSubmissions (earlier ++ later) := by
  induction rest generalizing earlier session with
  | nil =>
    obtain ⟨rfl, rfl⟩ := Step.pure_eq_some.1 done
    exact ⟨[], rfl, .nothing _, by simp⟩
  | cons batch rest ih =>
    simp only [submitPaused, Step.bind_eq_some] at done
    obtain ⟨_, rested, slept, next, middle, submitted, done⟩ := done
    rw [List.flatten_cons, hostsOf_append, List.nodup_append] at distinct
    obtain ⟨answer, called, rfl⟩ := submitBatch_performs distinct.1 submitted
    obtain ⟨later, cut, performed, same⟩ := ih distinct.2.1 done
    refine ⟨⟨batch, answer⟩ :: later, by simp [cut], ?_, by simpa using same⟩
    exact ((Step.sleep_performs slept).trans called).trans performed

/-- A round submits each of its distinct hosts once, in batches, and records the verdicts. -/
theorem submit_performs {pacing : Pacing} {requests : List DeleteRequest} {round : Round}
    (distinct : (hostsOf requests).Nodup)
    (done : submit collaborators pacing requests session = some (round, last)) :
    ∃ submissions : List Submission,
      submissions.map Submission.batch = batches pacing.limit requests ∧
      Performs collaborators session (submissions.map Submission.event) last ∧
      round = .ofSubmissions submissions := by
  have whole := flatten_batches pacing.limit requests
  cases cut : batches pacing.limit requests with
  | nil =>
    simp only [submit, cut] at done
    obtain ⟨rfl, rfl⟩ := Step.pure_eq_some.1 done
    exact ⟨[], rfl, .nothing _, rfl⟩
  | cons batch rest =>
    simp only [submit, cut, Step.bind_eq_some] at done
    rw [cut, List.flatten_cons] at whole
    obtain ⟨next, middle, submitted, done⟩ := done
    rw [← whole, hostsOf_append, List.nodup_append] at distinct
    change submitBatch collaborators batch (.ofSubmissions []) session = _ at submitted
    obtain ⟨answer, called, rfl⟩ := submitBatch_performs distinct.1 submitted
    obtain ⟨later, parts, performed, same⟩ := submitPaused_performs distinct.2.1 done
    refine ⟨⟨batch, answer⟩ :: later, by simp [parts], ?_, by simpa using same⟩
    exact called.trans performed

/-- The submissions of a round hold its requests in order. -/
theorem requestsOf_eq {submissions : List Submission} {limit : Nat}
    {requests : List DeleteRequest}
    (cut : submissions.map Submission.batch = batches limit requests) :
    requestsOf submissions = requests := by
  rw [requestsOf, List.flatMap_def, cut, flatten_batches]

end Deletion

end Scaledown
