/-
This file submits one round of delete requests in batches.
-/

import Scaledown.Deletion.RetryQueue
import Scaledown.Session

namespace Scaledown.Deletion

open Compute

/-- Batches are submitted with a pause in between, and a limit of zero counts as one. -/
structure Pacing where
  limit : Nat
  pause : Duration
  deriving DecidableEq, Repr

/-- Every batch but the last is full. -/
def batches {α : Type} (limit : Nat) (requests : List α) : List (List α) :=
  if requests = [] then []
  else requests.take (max limit 1) :: batches limit (requests.drop (max limit 1))
termination_by requests.length
decreasing_by
  rename_i nonempty
  have positive := List.length_pos_iff.2 nonempty
  simp only [List.length_drop]
  omega

/-- A request of a round is accepted, waits for the next round or has failed. -/
structure Round where
  accepted : List (String × Operation)
  retry : RetryQueue
  failed : List (String × String)
  batchSizes : List Nat
  deriving DecidableEq, Repr

namespace Round

def empty : Round := ⟨[], .empty, [], []⟩

/-- The outcome of a request decides its place, and a missing outcome is a failure. -/
def settle (round : Round) (hostname : String) : Option Outcome → Round
  | some (.accepted operation) =>
    { round with accepted := round.accepted ++ [(hostname, operation)] }
  | some (.throttled _) => { round with retry := (round.retry.push hostname).2 }
  | some (.failed message) => { round with failed := round.failed ++ [(hostname, message)] }
  | none => { round with failed := round.failed ++ [(hostname, "no outcome returned")] }

/-- Each request takes its outcome out of the answer. -/
def settleAll : List DeleteRequest → BatchOutcome → Round → Round
  | [], _, round => round
  | request :: requests, outcomes, round =>
    settleAll requests (outcomes.erase request.hostname)
      (round.settle request.hostname (outcomes.find? request.hostname))

/-- A batch that could not be submitted fails all its requests. -/
def failAll (error : Compute.Error) (batch : List DeleteRequest) (round : Round) : Round :=
  { round with
    failed := round.failed ++
      batch.map fun request => (request.hostname, "batch submission failed: " ++ error.message) }

end Round

variable {World : Type} (collaborators : Collaborators World)

def submitBatch (batch : List DeleteRequest) (round : Round) : Step World Round := do
  let round := { round with batchSizes := round.batchSizes ++ [batch.length] }
  match ← collaborators.deleteInstances batch with
  | .ok outcomes => return round.settleAll batch outcomes
  | .error error => return round.failAll error batch

/-- Every batch of this list is preceded by a pause. -/
def submitPaused (pause : Duration) : List (List DeleteRequest) → Round → Step World Round
  | [], round => return round
  | batch :: rest, round => do
    Step.sleep pause
    let round ← submitBatch collaborators batch round
    submitPaused pause rest round

/-- This step submits every request once, batch by batch. -/
def submit (pacing : Pacing) (requests : List DeleteRequest) : Step World Round :=
  match batches pacing.limit requests with
  | [] => return .empty
  | batch :: rest => do
    let round ← submitBatch collaborators batch .empty
    submitPaused collaborators pacing.pause rest round

end Scaledown.Deletion
