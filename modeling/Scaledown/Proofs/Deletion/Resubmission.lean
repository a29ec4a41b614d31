/-
This file shows that a drain submits a host again only after it was throttled.
-/

import Scaledown.Proofs.Deletion.Drain
import Scaledown.Simulation.Script

namespace Scaledown.Deletion

open Compute

/-- The first round has all requests. Each later round has exactly the requests that the round
before it throttled, in the same order and with the same zones. -/
structure Resubmits (requests : List DeleteRequest) (rounds : List (List Submission)) :
    Prop where
  first : ∀ round, rounds[0]? = some round → requestsOf round = requests
  next : ∀ (k : Nat) (earlier later : List Submission), rounds[k]? = some earlier →
    rounds[k + 1]? = some later → requestsOf later = throttledOf earlier
  /-- A host that was not throttled in some round is in no later one. -/
  never : ∀ (i j : Nat) (earlier later : List Submission), i < j → rounds[i]? = some earlier →
    rounds[j]? = some later → ∀ request ∈ requestsOf later,
      ∃ message, (request, Outcome.throttled message) ∈ verdictsOf earlier

/-- The drain stops after the first round without throttled hosts, and then every host has either
its operation or its failure. -/
structure Settles (requests : List DeleteRequest) (rounds : List (List Submission))
    (summary : Summary) : Prop where
  starts : rounds = [] ↔ requests = []
  stops : ∀ (k : Nat) (round : List Submission), rounds[k]? = some round →
    (throttledOf round = [] ↔ k + 1 = rounds.length)
  count : summary.rounds = rounds.length
  operations : summary.operations = rounds.flatMap acceptedOf
  failed : summary.failed = rounds.flatMap failedOf
  once : (summary.operations.map Prod.fst).Nodup
  apart : ∀ host ∈ summary.operations.map Prod.fst, host ∉ summary.failed.keys
  complete : ∀ host, host ∈ hostsOf requests ↔
    host ∈ summary.operations.map Prod.fst ∨ host ∈ summary.failed.keys

namespace Rounds

variable {limit : Nat} {requests left : List DeleteRequest} {rounds : List (List Submission)}

theorem resubmits (made : Rounds limit requests rounds left) : Resubmits requests rounds where
  first := made.requestsOf_getElem?.1
  next := made.requestsOf_getElem?.2
  never := by
    intro i j earlier later before first second request inside
    rw [← mem_throttledOf_iff]
    exact (made.throttled_of_resubmitted before first second).subset inside

theorem settles (made : Rounds limit requests rounds []) (distinct : (hostsOf requests).Nodup) :
    Settles requests rounds (.ofRounds rounds) := by
  have divided := made.divide
  rw [hostsOf, List.map_nil, List.append_nil] at divided
  have apart := divided.nodup_iff.2 distinct
  exact {
    starts := by
      cases made with
      | start => simp
      | round nonempty => simp [nonempty]
    stops := fun k round present => by simpa using made.throttledOf_eq_nil_iff present
    count := rfl
    operations := rfl
    failed := rfl
    once := (List.nodup_append.1 apart).1
    apart := fun host accepted failed => (List.nodup_append.1 apart).2.2 _ accepted _ failed rfl
    complete := fun host => by rw [← divided.mem_iff, List.mem_append]; rfl }

end Rounds

section Stalling

variable {World : Type}

/-- The collaborators answer some batches of these requests and never the next one. -/
def Stalls (collaborators : Collaborators World) (pending : List DeleteRequest)
    (session : Session World) : Prop :=
  ∃ answered batch later middle, requestsOf answered ++ batch ++ later = pending ∧ batch ≠ [] ∧
    Performs collaborators session (answered.map Submission.event) middle ∧
    collaborators.provider.deleteInstances middle.time batch middle.world = none

variable {collaborators : Collaborators World} {session : Session World}

theorem stalls_of_unanswered {batch : List DeleteRequest} (later : List DeleteRequest)
    (nonempty : batch ≠ [])
    (unanswered : collaborators.provider.deleteInstances session.time batch session.world = none) :
    Stalls collaborators (batch ++ later) session :=
  ⟨[], batch, later, session, rfl, nonempty, .nothing session, unanswered⟩

/-- What stalls after a batch stalls with this batch in front. -/
theorem Stalls.cons {middle : Session World} {submission : Submission}
    {pending : List DeleteRequest}
    (called : Performs collaborators session [submission.event] middle)
    (stalls : Stalls collaborators pending middle) :
    Stalls collaborators (submission.batch ++ pending) session := by
  obtain ⟨answered, batch, later, last, rfl, nonempty, performed, unanswered⟩ := stalls
  refine ⟨submission :: answered, batch, later, last, ?_, nonempty, called.trans performed,
    unanswered⟩
  simp [requestsOf]

/-- A batch that has no end stalls, and so does what follows a batch that has one. -/
theorem stalls_of_bind {batch : List DeleteRequest} {round : Round}
    {next : Round → Step World Round} {later : List DeleteRequest} (nonempty : batch ≠ [])
    (endless : (submitBatch collaborators batch round >>= next) session = none)
    (rest : ∀ settled middle, next settled middle = none → Stalls collaborators later middle) :
    Stalls collaborators (batch ++ later) session := by
  cases replied : collaborators.provider.deleteInstances session.time batch session.world with
  | none => exact stalls_of_unanswered later nonempty replied
  | some reached =>
    obtain ⟨answer, world⟩ := reached
    obtain ⟨settled, submitted⟩ := submitBatch_of_replied round replied
    change (submitBatch collaborators batch round session).bind _ = none at endless
    rw [submitted, Option.bind_some] at endless
    have called : Performs collaborators session [Submission.event ⟨batch, answer⟩]
        (session.record (Submission.event ⟨batch, answer⟩) world) := .call replied (.nothing _)
    exact .cons called (rest settled _ endless)

theorem submitPaused_stalls {pause : Duration} {rest : List (List DeleteRequest)} {round : Round}
    (nonempty : ∀ batch ∈ rest, batch ≠ [])
    (endless : submitPaused collaborators pause rest round session = none) :
    Stalls collaborators rest.flatten session := by
  induction rest generalizing round session with
  | nil => cases endless
  | cons batch rest ih =>
    obtain ⟨present, nonempty⟩ := List.forall_mem_cons.1 nonempty
    have stalled := stalls_of_bind present
      (show (submitBatch collaborators batch round >>= submitPaused collaborators pause rest)
        (session.later (min pause.millis Step.longestSleep.millis)) = none from endless)
      fun _ _ => ih nonempty
    obtain ⟨answered, unanswered, later, middle, cut, batchPresent, performed, silent⟩ := stalled
    exact ⟨answered, unanswered, later, middle, cut, batchPresent, .sleep _ performed, silent⟩

/-- A round has no end only when one of its batches is never answered. -/
theorem submit_stalls {pacing : Pacing} {pending : List DeleteRequest}
    (endless : submit collaborators pacing pending session = none) :
    Stalls collaborators pending session := by
  have whole := flatten_batches pacing.limit pending
  have nonempty : ∀ batch ∈ batches pacing.limit pending, batch ≠ [] := ne_nil_of_mem_batches
  unfold submit at endless
  cases cut : batches pacing.limit pending with
  | nil =>
    rw [cut] at endless
    cases endless
  | cons batch rest =>
    rw [cut] at endless whole nonempty
    obtain ⟨present, others⟩ := List.forall_mem_cons.1 nonempty
    rw [← whole, List.flatten_cons]
    exact stalls_of_bind present endless fun _ _ => submitPaused_stalls others

end Stalling

variable {World : Type} {collaborators : Collaborators World}

/-- Every drain of distinct hosts makes such rounds and no other call, and the collaborators have
given all their answers. It returns after the first round that throttles nothing, and it goes on
after all others until the patience of its caller ends or a batch is never answered. -/
theorem drain_submits_throttled_again (pacing : Pacing) (patience : Nat)
    (requests : List DeleteRequest) (session : Session World)
    (distinct : (hostsOf requests).Nodup) :
    ∃ rounds last, Resubmits requests rounds ∧
      Performs collaborators session (rounds.flatten.map Submission.event) last ∧
      last.events = session.events ++ rounds.flatten.map Submission.event ∧
      ((∃ summary,
          drain collaborators pacing patience requests session = some (summary, last) ∧
            Settles requests rounds summary) ∨
        drain collaborators pacing patience requests session = none ∧
          (∀ round ∈ rounds, throttledOf round ≠ []) ∧
          (rounds.length = patience ∨
            rounds.length < patience ∧
              Stalls collaborators ((rounds.getLast?.map throttledOf).getD requests) last)) := by
  obtain ⟨rounds, left, last, made, performed, result⟩ :=
    drain_rounds collaborators pacing patience session distinct
  refine ⟨rounds, last, made.resubmits, performed, performed.events_eq, ?_⟩
  rcases result with ⟨returned, rfl⟩ | ⟨unfinished, pending, rest⟩
  · exact .inl ⟨_, returned, made.settles distinct⟩
  · refine .inr ⟨unfinished, ?_, ?_⟩
    · intro round inside quiet
      obtain ⟨k, present⟩ := List.mem_iff_getElem?.1 inside
      exact pending ((made.throttledOf_eq_nil_iff present).1 quiet).1
    · rw [← made.left_eq]
      exact rest.imp_right fun ⟨less, endless⟩ => ⟨less, submit_stalls endless⟩

/-- The second of three nodes is throttled once and has a round of its own. -/
def crowded : Simulation.World where
  provider := ⟨[], [("node-1", [.outcome (.throttled "rate limit exceeded")])], [], [], []⟩
  scheduler := ⟨none, none, []⟩
  accelerator := []

def threeRequests : List DeleteRequest :=
  [⟨"node-0", "zone-a"⟩, ⟨"node-1", "zone-a"⟩, ⟨"node-2", "zone-b"⟩]

theorem drain_submits_throttled_again_crowded :
    (hostsOf threeRequests).Nodup ∧
      ∃ rounds summary last, Resubmits threeRequests rounds ∧
        Performs Simulation.collaborators (.start crowded) (rounds.flatten.map Submission.event)
          last ∧
        drain Simulation.collaborators ⟨2, .zero⟩ 5 threeRequests (.start crowded) =
          some (summary, last) ∧
        Settles threeRequests rounds summary ∧
        last.events.map Event.submitted = [["node-0", "node-1"], ["node-2"], ["node-1"]] ∧
        summary.operations.map Prod.fst = ["node-0", "node-2", "node-1"] ∧
        summary.failed = [] ∧ summary.rounds = 2 := by
  have distinct : (hostsOf threeRequests).Nodup := by decide
  have ended : (drain Simulation.collaborators ⟨2, .zero⟩ 5 threeRequests (.start crowded)).map
      (fun reached => (reached.2.events.map Event.submitted,
        reached.1.operations.map Prod.fst, reached.1.failed, reached.1.rounds)) =
      some ([["node-0", "node-1"], ["node-2"], ["node-1"]], ["node-0", "node-2", "node-1"], [],
        2) := by
    decide +kernel
  obtain ⟨rounds, last, resubmits, performed, -, ⟨summary, returned, settles⟩ | ⟨unfinished, -⟩⟩ :=
    @drain_submits_throttled_again _ Simulation.collaborators ⟨2, .zero⟩ 5 threeRequests
      (.start crowded) distinct
  · rw [returned, Option.map_some, Option.some.injEq] at ended
    simp only [Prod.mk.injEq] at ended
    obtain ⟨calls, accepted, failed, count⟩ := ended
    exact ⟨distinct, rounds, summary, last, resubmits, performed, returned, settles, calls,
      accepted, failed, count⟩
  · rw [unfinished] at ended
    cases ended

end Scaledown.Deletion
