/-
This file resubmits throttled deletions until none remain.
-/

import Scaledown.Deletion.Round

namespace Scaledown.Deletion

open Compute

/-- The accepted deletions are kept in the order of their acceptance. -/
structure Summary where
  operations : List (String × Operation)
  failed : Table String
  /-- It never exceeds the patience of the drain, so thirty-two bits hold it where they hold
  that. -/
  rounds : Nat
  batchSizes : List Nat
  deriving DecidableEq, Repr

namespace Summary

def empty : Summary := ⟨[], [], 0, []⟩

def add (summary : Summary) (round : Round) : Summary where
  operations := summary.operations ++ round.accepted
  failed := summary.failed.putAll round.failed
  rounds := summary.rounds + 1
  batchSizes := summary.batchSizes ++ round.batchSizes

end Summary

/-- Each host keeps the request that was made for it, the last one if there are several. -/
def requestTable (requests : List DeleteRequest) : Table DeleteRequest :=
  Table.putAll [] (requests.map fun request => (request.hostname, request))

variable {World : Type} (collaborators : Collaborators World)

/-- There is no limit to the rounds but the patience of the caller. -/
def drainRounds (pacing : Pacing) (known : Table DeleteRequest) :
    Nat → List DeleteRequest → Summary → Step World Summary
  | 0, _, _ => failure
  | patience + 1, pending, summary => do
    let round ← submit collaborators pacing pending
    let summary := summary.add round
    if round.retry.isEmpty then return summary
    else
      Step.sleep pacing.pause
      drainRounds pacing known patience (round.retry.drain.1.filterMap known.find?) summary

/-- This step submits the requests and then, round by round, what was throttled. -/
def drain (pacing : Pacing) (patience : Nat) (requests : List DeleteRequest) :
    Step World Summary :=
  if requests = [] then return .empty
  else drainRounds collaborators pacing (requestTable requests) patience requests .empty

end Scaledown.Deletion
