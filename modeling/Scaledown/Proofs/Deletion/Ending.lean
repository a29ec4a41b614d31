/-
This file shows that a drain ends when its rounds bring its end nearer.
-/

import Scaledown.Proofs.Deletion.Drain
import Scaledown.Proofs.Session.Ending

namespace Scaledown.Deletion

open Compute

variable {World : Type} {collaborators : Collaborators World} {world : World}
  {session : Session World}

/-- From here on the provider answers every batch of distinct hosts. -/
def AnswersDeletes (collaborators : Collaborators World) (session : Session World) : Prop :=
  ∀ ⦃events later⦄, Performs collaborators session events later →
    ∀ batch, (hostsOf batch).Nodup → ∃ answer after,
      collaborators.provider.deleteInstances later.time batch later.world = some (answer, after)

theorem AnswersDeletes.after {last : Session World} {events : List Event}
    (answered : AnswersDeletes collaborators session)
    (performed : Performs collaborators session events last) :
    AnswersDeletes collaborators last :=
  fun _ _ rest => answered (performed.trans rest)

theorem submitBatch_answered (answered : AnswersDeletes collaborators session)
    {batch : List DeleteRequest} (distinct : (hostsOf batch).Nodup) (round : Round) :
    ∃ next last, submitBatch collaborators batch round session = some (next, last) ∧
      AnswersDeletes collaborators last := by
  obtain ⟨answer, after, replied⟩ := answered (.nothing session) batch distinct
  obtain ⟨next, submitted⟩ := submitBatch_of_replied round replied
  have called : Performs collaborators session [Submission.event ⟨batch, answer⟩]
      (session.record (Submission.event ⟨batch, answer⟩) after) := .call replied (.nothing _)
  exact ⟨next, _, submitted, answered.after called⟩

theorem submitPaused_answered (answered : AnswersDeletes collaborators session)
    (pause : Duration) {rest : List (List DeleteRequest)} (round : Round)
    (distinct : ∀ batch ∈ rest, (hostsOf batch).Nodup) :
    ∃ next last, submitPaused collaborators pause rest round session = some (next, last) := by
  induction rest generalizing round session with
  | nil => exact ⟨round, session, rfl⟩
  | cons batch rest ih =>
    have slept : Step.sleep pause session = some ((), _) := rfl
    obtain ⟨next, middle, submitted, later⟩ :=
      submitBatch_answered (answered.after (Step.sleep_performs slept))
        (distinct batch List.mem_cons_self) round
    obtain ⟨result, last, done⟩ :=
      ih later next fun other inside => distinct other (List.mem_cons_of_mem _ inside)
    exact ⟨result, last,
      Step.bind_eq_some.2 ⟨_, _, slept, Step.bind_eq_some.2 ⟨_, _, submitted, done⟩⟩⟩

/-- A round of distinct hosts ends when all its batches are answered. -/
theorem submit_answered (answered : AnswersDeletes collaborators session) (pacing : Pacing)
    {requests : List DeleteRequest} (distinct : (hostsOf requests).Nodup) :
    ∃ round last, submit collaborators pacing requests session = some (round, last) := by
  have apart : ∀ batch ∈ batches pacing.limit requests, (hostsOf batch).Nodup := by
    intro batch inside
    have part := (List.sublist_flatten_of_mem inside).map DeleteRequest.hostname
    rw [flatten_batches] at part
    exact part.nodup distinct
  unfold submit
  cases cut : batches pacing.limit requests with
  | nil => exact ⟨.empty, session, rfl⟩
  | cons batch rest =>
    rw [cut] at apart
    obtain ⟨round, middle, submitted, later⟩ :=
      submitBatch_answered answered (apart batch List.mem_cons_self) .empty
    obtain ⟨result, last, done⟩ := submitPaused_answered later pacing.pause round
      fun other inside => apart other (List.mem_cons_of_mem _ inside)
    exact ⟨result, last, Step.bind_eq_some.2 ⟨_, _, submitted, done⟩⟩

/-- Each round that throttles a host brings the end of the drain nearer. -/
def RoundsComeNearer (collaborators : Collaborators World)
    (Near : Nat → List DeleteRequest → Session World → Prop) : Prop :=
  ∀ ⦃needed round start rested⦄, (hostsOf (requestsOf round)).Nodup →
    Near needed (requestsOf round) start →
    Performs collaborators start (round.map Submission.event) rested → throttledOf round ≠ [] →
    ∃ less < needed, Near less (throttledOf round) rested

theorem drainRounds_ends (answering : Answering collaborators world) (pacing : Pacing)
    {known : Table DeleteRequest} {Near : Nat → List DeleteRequest → Session World → Prop}
    (nearer : RoundsComeNearer collaborators Near) {needed : Nat} {pending : List DeleteRequest}
    (earlier : List (List Submission)) (arrived : Arrives collaborators world session)
    (same : ∀ request ∈ pending, known.find? request.hostname = some request)
    (distinct : ((earlier.flatMap failedOf).map Prod.fst ++ hostsOf pending).Nodup)
    (near : Near needed pending session) :
    Ends collaborators world
      (fun patience => drainRounds collaborators pacing known patience pending (.ofRounds earlier))
      session := by
  induction needed using Nat.strong_induction_on generalizing pending earlier session with
  | _ needed ih =>
    have pendingDistinct := (List.nodup_append.1 distinct).2.1
    obtain ⟨round, middle, submitted⟩ := submit_answered
      (fun _ _ rest => answering.deletes (arrived.after rest)) pacing pendingDistinct
    obtain ⟨submissions, cut, performed, rfl⟩ := submit_performs pendingDistinct submitted
    have covers := requestsOf_eq cut
    have failedFresh := nodup_failed_append_throttled cut distinct
    have kept : ∀ request ∈ throttledOf submissions,
        known.find? request.hostname = some request := by
      intro request inside
      exact same request (covers ▸ (throttledOf_sublist submissions).subset inside)
    have step := fun patience =>
      drainRounds_succ collaborators patience submitted kept failedFresh
    apply Ends.of_succ
    by_cases finished : throttledOf submissions = []
    · exact ⟨.ofRounds (earlier ++ [submissions]), middle, 0, arrived.after performed,
        fun patience _ => (step patience).trans (if_pos finished)⟩
    · have rested := performed.trans
        (.sleep (min pacing.pause.millis Step.longestSleep.millis) (.nothing _))
      rw [List.append_nil] at rested
      rw [← covers] at pendingDistinct near
      obtain ⟨less, fewer, nearly⟩ := nearer pendingDistinct near rested finished
      obtain ⟨result, last, bound, reached, ended⟩ := ih less fewer (earlier ++ [submissions])
        (arrived.after rested) kept (by simpa [List.append_assoc] using failedFresh) nearly
      exact ⟨result, last, bound, reached, fun patience enough =>
        (step patience).trans ((if_neg finished).trans (ended patience enough))⟩

/-- A drain of distinct hosts ends when its rounds bring its end nearer. -/
theorem drain_ends (answering : Answering collaborators world) (pacing : Pacing)
    {requests : List DeleteRequest} {Near : Nat → List DeleteRequest → Session World → Prop}
    (nearer : RoundsComeNearer collaborators Near) {needed : Nat}
    (arrived : Arrives collaborators world session) (distinct : (hostsOf requests).Nodup)
    (near : Near needed requests session) :
    Ends collaborators world (fun patience => drain collaborators pacing patience requests)
      session := by
  by_cases nothing : requests = []
  · simp only [drain, if_pos nothing]
    exact .pure _ arrived
  · simp only [drain, if_neg nothing]
    exact drainRounds_ends answering pacing nearer [] arrived (find?_requestTable distinct)
      (by simpa using distinct) near

end Scaledown.Deletion
