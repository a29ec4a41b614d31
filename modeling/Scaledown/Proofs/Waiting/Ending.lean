/-
This file shows that a wait ends when its polls bring its end nearer.
-/

import Scaledown.Proofs.Session.Ending
import Scaledown.Proofs.Waiting

namespace Scaledown.Waiting

open Compute

variable {World : Type} {collaborators : Collaborators World} {world : World}
  {session : Session World}

theorem wait_of_isDone {interval : Duration} {operation : Operation}
    (isDone : operation.isDone = true) (patience : Nat) :
    wait collaborators interval patience operation = pure (settled operation) := by
  cases patience <;> rw [wait, if_pos isDone]

/-- Each poll that leaves its operation unfinished brings the end of the wait nearer. -/
def PollsComeNearer (collaborators : Collaborators World)
    (Near : Nat → Operation → Session World → Prop) : Prop :=
  ∀ ⦃needed operation latest start rested⦄, operation.isDone = false →
    Near needed operation start →
    Performs collaborators start [Poll.event ⟨operation, .ok latest⟩] rested →
    latest.isDone = false → ∃ less < needed, Near less latest rested

/-- A wait ends when its polls bring its end nearer. -/
theorem wait_ends (answering : Answering collaborators world) (interval : Duration)
    {Near : Nat → Operation → Session World → Prop} (nearer : PollsComeNearer collaborators Near)
    {needed : Nat} {operation : Operation} (arrived : Arrives collaborators world session)
    (near : Near needed operation session) :
    Ends collaborators world (fun patience => wait collaborators interval patience operation)
      session := by
  induction needed using Nat.strong_induction_on generalizing operation session with
  | _ needed ih =>
    cases isDone : operation.isDone with
    | true =>
      simp only [wait_of_isDone isDone]
      exact .pure _ arrived
    | false =>
      apply Ends.of_succ
      simp only [wait, isDone, Bool.false_eq_true, if_false]
      refine (answering.waitOperation_ends arrived operation).bind
        fun _ answer middle asked arrived => ?_
      cases answer with
      | error error => exact .pure _ arrived
      | ok latest =>
        cases unfinished : latest.isDone with
        | true =>
          simp only [unfinished, Bool.not_true, Bool.false_eq_true, if_false,
            wait_of_isDone unfinished]
          exact .pure _ arrived
        | false =>
          simp only [unfinished, Bool.not_false, if_true]
          refine (Ends.sleep interval arrived).bind fun _ _ rested slept arrived => ?_
          have polled := (Collaborators.waitOperation_performs asked).trans
            (Step.sleep_performs slept)
          rw [List.append_nil] at polled
          obtain ⟨less, fewer, nearly⟩ := nearer isDone near polled unfinished
          exact ih less fewer arrived nearly

end Scaledown.Waiting
