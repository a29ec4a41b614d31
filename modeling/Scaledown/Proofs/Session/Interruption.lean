/-
This file follows a run for a number of calls, so that a run without an end can be looked at.
-/

import Scaledown.Proofs.Session.Ending

namespace Scaledown

open Compute

/-- So many calls are still answered in this world. -/
structure Interrupted (World : Type) where
  calls : Nat
  world : World

/-- A call is answered as long as calls are left. All calls fail when none is left, and after a
call that would never be answered. -/
def Reply.interrupted {World Value Failure : Type} (failure : Failure)
    (reply : Reply World (Except Failure Value)) :
    Reply (Interrupted World) (Except Failure Value) := fun state =>
  match state.calls with
  | 0 => some (.error failure, state)
  | calls + 1 =>
    match reply state.world with
    | some (answer, after) => some (answer, ⟨calls, after⟩)
    | none => some (.error failure, ⟨0, state.world⟩)

namespace Collaborators

variable {World : Type} (collaborators : Collaborators World)

def interrupted : Collaborators (Interrupted World) where
  provider := {
    deleteInstances := fun time batch =>
      (collaborators.provider.deleteInstances time batch).interrupted (.transport "interrupted")
    waitOperation := fun time operation =>
      (collaborators.provider.waitOperation time operation).interrupted (.transport "interrupted")
    listInstances := fun time region namePart =>
      (collaborators.provider.listInstances time region namePart).interrupted
        (.transport "interrupted")
    deleteResourcePolicy := fun time region name =>
      (collaborators.provider.deleteResourcePolicy time region name).interrupted
        (.transport "interrupted") }
  scheduler := {
    expandHostlist := fun expression =>
      (collaborators.scheduler.expandHostlist expression).interrupted
        (.notStarted "scontrol" "interrupted")
    updateNodes := fun nodes target reason =>
      (collaborators.scheduler.updateNodes nodes target reason).interrupted
        (.notStarted "scontrol" "interrupted") }
  accelerator := {
    delete := fun node zone =>
      (collaborators.accelerator.delete node zone).interrupted "interrupted" }

end Collaborators

/-- The answer of this call is no error. -/
def Event.isOk : Event → Bool
  | .deleteInstances _ answer => answer.isOk
  | .waitOperation _ answer => answer.isOk
  | .listInstances _ _ answer => answer.isOk
  | .deleteResourcePolicy _ _ answer => answer.isOk
  | .expandHostlist _ answer => answer.isOk
  | .updateNodes _ _ _ answer => answer.isOk
  | .deleteAccelerator _ _ answer => answer.isOk

variable {World Value Failure : Type}

/-- Interrupted calls never wait for their answer. -/
theorem Reply.exists_interrupted (failure : Failure) (reply : Reply World (Except Failure Value))
    (state : Interrupted World) :
    ∃ answer after, reply.interrupted failure state = some (answer, after) := by
  unfold interrupted
  cases state.calls with
  | zero => exact ⟨_, _, rfl⟩
  | succ calls =>
    cases reply state.world with
    | none => exact ⟨_, _, rfl⟩
    | some answered => exact ⟨_, _, rfl⟩

/-- An interrupted call has its own answer, or it fails and no answer is left. -/
theorem Reply.interrupted_eq_some {failure : Failure} {reply : Reply World (Except Failure Value)}
    {before after : Interrupted World} {answer : Except Failure Value}
    (replied : reply.interrupted failure before = some (answer, after)) :
    before.calls = after.calls + 1 ∧ reply before.world = some (answer, after.world) ∨
      answer.isOk = false ∧ after.calls = 0 := by
  unfold interrupted at replied
  cases left : before.calls with
  | zero =>
    rw [left] at replied
    obtain ⟨rfl, rfl⟩ := Prod.mk.inj (Option.some.inj replied)
    exact .inr ⟨rfl, left⟩
  | succ calls =>
    rw [left] at replied
    cases answered : reply before.world with
    | none =>
      rw [answered] at replied
      obtain ⟨rfl, rfl⟩ := Prod.mk.inj (Option.some.inj replied)
      exact .inr ⟨rfl, rfl⟩
    | some given =>
      rw [answered] at replied
      obtain ⟨rfl, rfl⟩ := Prod.mk.inj (Option.some.inj replied)
      exact .inl ⟨rfl, rfl⟩

variable {collaborators : Collaborators World}

theorem Collaborators.answers_interrupted {time : Nat} {event : Event}
    {before after : Interrupted World}
    (answered : collaborators.interrupted.Answers time event before after) :
    before.calls = after.calls + 1 ∧ collaborators.Answers time event before.world after.world ∨
      event.isOk = false ∧ after.calls = 0 := by
  cases event <;> exact Reply.interrupted_eq_some answered

/-- This session goes on without an interruption. -/
def Session.uninterrupted (session : Session (Interrupted World)) : Session World :=
  ⟨session.world.world, session.time, session.history⟩

/-- The calls of an interrupted run are those of the same collaborators without an interruption
as long as answers are left, and fail from then on. -/
theorem Performs.uninterrupted {session last : Session (Interrupted World)} {events : List Event}
    (performed : Performs collaborators.interrupted session events last) :
    ∃ former latter middle, events = former ++ latter ∧
      Performs collaborators session.uninterrupted former middle ∧
      former.length + last.world.calls ≤ session.world.calls ∧
      ∀ event ∈ latter, event.isOk = false ∧ last.world.calls = 0 := by
  induction performed with
  | nothing session => exact ⟨[], [], _, rfl, .nothing _, by simp, by simp⟩
  | sleep millis _ ih =>
    obtain ⟨former, latter, middle, rfl, own, enough, failing⟩ := ih
    exact ⟨former, latter, middle, rfl, .sleep millis own, enough, failing⟩
  | @call session last event events world answered rest ih =>
    obtain ⟨former, latter, middle, rfl, own, enough, failing⟩ := ih
    change former.length + last.world.calls ≤ world.calls at enough
    rcases Collaborators.answers_interrupted answered with ⟨less, given⟩ | ⟨failed, nothingLeft⟩
    · refine ⟨event :: former, latter, middle, rfl, .call given own, ?_, failing⟩
      rw [List.length_cons, less]
      omega
    · obtain rfl : former = [] := List.eq_nil_of_length_eq_zero (by omega)
      have exhausted : last.world.calls = 0 := by omega
      refine ⟨[], event :: latter, _, rfl, .nothing _, by simp [exhausted], ?_⟩
      exact List.forall_mem_cons.2 ⟨⟨failed, exhausted⟩, failing⟩

/-- Calls without an error use up answers. -/
theorem Performs.calls_lt {session last : Session (Interrupted World)} {events : List Event}
    (performed : Performs collaborators.interrupted session events last) {event : Event}
    (inside : event ∈ events) (isOk : event.isOk = true) :
    last.world.calls < session.world.calls := by
  obtain ⟨former, latter, middle, rfl, -, enough, failing⟩ := performed.uninterrupted
  rcases List.mem_append.1 inside with early | late
  · have counted := List.length_pos_of_mem early
    omega
  · rw [(failing event late).1] at isOk
    cases isOk

theorem answering_interrupted (collaborators : Collaborators World) (state : Interrupted World) :
    Answering collaborators.interrupted state where
  deletes _ _ _ := Reply.exists_interrupted _ _ _
  waits _ _ := Reply.exists_interrupted _ _ _
  lists _ _ _ := Reply.exists_interrupted _ _ _
  groups _ _ _ := Reply.exists_interrupted _ _ _
  updates _ _ _ _ := Reply.exists_interrupted _ _ _
  removes _ _ _ := Reply.exists_interrupted _ _ _

end Scaledown
