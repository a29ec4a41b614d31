/-
This file describes worlds in which the answers about one host depend on this host alone.
-/

import Scaledown.Proofs.Session.Ending

namespace Scaledown

open Compute Deletion

/-- A poll is counted for the name of its operation. -/
def Event.polled? : Event → Option String
  | .waitOperation operation _ => some operation.name
  | _ => none

/-- So many times was this host submitted by these calls. -/
def timesSubmitted (events : List Event) (host : String) : Nat :=
  (events.flatMap Event.submitted).count host

def timesPolled (events : List Event) (name : String) : Nat :=
  (events.filterMap Event.polled?).count name

theorem timesSubmitted_append (former latter : List Event) (host : String) :
    timesSubmitted (former ++ latter) host =
      timesSubmitted former host + timesSubmitted latter host := by
  rw [timesSubmitted, List.flatMap_append, List.count_append]
  rfl

/-- Calls that submit nothing leave every host as it was. -/
theorem timesSubmitted_eq_zero {events : List Event}
    (quiet : ∀ event ∈ events, event.submitted = []) (host : String) :
    timesSubmitted events host = 0 := by
  rw [timesSubmitted, List.flatMap_eq_nil_iff.2 quiet]
  rfl

theorem timesPolled_append (former latter : List Event) (name : String) :
    timesPolled (former ++ latter) name = timesPolled former name + timesPolled latter name := by
  rw [timesPolled, List.filterMap_append, List.count_append]
  rfl

/-- Calls that poll nothing leave every operation as it was. -/
theorem timesPolled_eq_zero {events : List Event}
    (quiet : ∀ event ∈ events, event.polled? = none) (name : String) :
    timesPolled events name = 0 := by
  rw [timesPolled, List.filterMap_eq_nil_iff.2 quiet]
  rfl

/-- A poll ends with an error or with an operation that is done. -/
def pollEnds : Except Compute.Error Operation → Bool
  | .ok latest => latest.status == .done
  | .error _ => true

/-- The outcome of a submission depends on its host and on the earlier submissions of this host,
and a poll depends on the name of its operation and on the earlier polls of this name. -/
structure LocalAnswers where
  listing : String → String → Except Compute.Error (List Instance)
  /-- A request may be left out of the answer. -/
  outcome : String → Nat → Option Outcome
  poll : String → Nat → Except Compute.Error Operation
  accelerator : String → String → Except String Unit
  update : String → Scheduler.Target → Except Scheduler.Error Unit
  ownNames : ∀ {host other time later one two}, host ≠ other →
    outcome host time = some (.accepted one) → outcome other later = some (.accepted two) →
      one.name ≠ two.name
  keepsName : ∀ {name time latest}, poll name time = .ok latest → latest.name = name
  throttlingEnds : ∀ host, ∃ bound, ∀ time, bound ≤ time → ∀ message,
    outcome host time ≠ some (.throttled message)
  pollingEnds : ∀ name start, ∃ time, start ≤ time ∧ pollEnds (poll name time) = true

/-- After these calls the answer to this one is the local one. -/
def LocalAnswers.Gives (answers : LocalAnswers) (before : List Event) : Event → Prop
  | .deleteInstances batch answer => (hostsOf batch).Nodup →
    ∃ outcomes, answer = .ok outcomes ∧ ∀ host ∈ hostsOf batch,
      outcomes.find? host = answers.outcome host (timesSubmitted before host)
  | .waitOperation operation answer =>
    answer = answers.poll operation.name (timesPolled before operation.name)
  | .listInstances region namePart answer => answer = answers.listing region namePart
  | .updateNodes nodes target _ answer => answer = answers.update nodes target
  | .deleteAccelerator node zone answer => answer = answers.accelerator node zone
  | .deleteResourcePolicy _ _ _ => True
  | .expandHostlist _ _ => True

/-- After these calls every batch of distinct hosts is answered, and each request has the outcome
that its host has after so many submissions. -/
def GivesOutcomes (outcome : String → Nat → Option Outcome) (before : List Event) :
    Event → Prop
  | .deleteInstances batch answer => (hostsOf batch).Nodup →
    ∃ outcomes, answer = .ok outcomes ∧ ∀ host ∈ hostsOf batch,
      outcomes.find? host = outcome host (timesSubmitted before host)
  | _ => True

theorem LocalAnswers.givesOutcomes (answers : LocalAnswers) (before : List Event)
    (event : Event) (given : answers.Gives before event) :
    GivesOutcomes answers.outcome before event := by
  cases event with
  | deleteInstances batch answer => exact given
  | _ => trivial

variable {World : Type}

/-- Whatever was called since the start, the collaborators answer every call about a host, and
they give the local answer. -/
structure HostLocal (collaborators : Collaborators World) (answers : LocalAnswers)
    (world : World) : Prop where
  deletes : ∀ {events session}, Performs collaborators (.start world) events session →
    ∀ batch, (hostsOf batch).Nodup → ∃ outcomes after,
      collaborators.provider.deleteInstances session.time batch session.world =
          some (.ok outcomes, after) ∧
        ∀ host ∈ hostsOf batch,
          outcomes.find? host = answers.outcome host (timesSubmitted events host)
  waits : ∀ {events session}, Performs collaborators (.start world) events session →
    ∀ operation, ∃ after,
      collaborators.provider.waitOperation session.time operation session.world =
        some (answers.poll operation.name (timesPolled events operation.name), after)
  lists : ∀ {events session}, Performs collaborators (.start world) events session →
    ∀ region namePart, ∃ after,
      collaborators.provider.listInstances session.time region namePart session.world =
        some (answers.listing region namePart, after)
  groups : ∀ {events session}, Performs collaborators (.start world) events session →
    ∀ region name, ∃ answer after,
      collaborators.provider.deleteResourcePolicy session.time region name session.world =
        some (answer, after)
  updates : ∀ {events session}, Performs collaborators (.start world) events session →
    ∀ nodes target reason, ∃ after,
      collaborators.scheduler.updateNodes nodes target reason session.world =
        some (answers.update nodes target, after)
  removes : ∀ {events session}, Performs collaborators (.start world) events session →
    ∀ node zone, ∃ after,
      collaborators.accelerator.delete node zone session.world =
        some (answers.accelerator node zone, after)

namespace HostLocal

variable {collaborators : Collaborators World} {answers : LocalAnswers} {world : World}

/-- Every call has its local answer. -/
theorem gives (here : HostLocal collaborators answers world) {before : List Event}
    {session : Session World} (reached : Performs collaborators (.start world) before session)
    {event : Event} {after : World}
    (answered : collaborators.Answers session.time event session.world after) :
    answers.Gives before event := by
  cases event with
  | deleteInstances batch answer =>
    intro distinct
    obtain ⟨outcomes, other, replied, own⟩ := here.deletes reached batch distinct
    obtain ⟨rfl, -⟩ := Prod.mk.inj (Option.some.inj (answered.symm.trans replied))
    exact ⟨outcomes, rfl, own⟩
  | waitOperation operation answer =>
    obtain ⟨other, replied⟩ := here.waits reached operation
    exact (Prod.mk.inj (Option.some.inj (answered.symm.trans replied))).1
  | listInstances region namePart answer =>
    obtain ⟨other, replied⟩ := here.lists reached region namePart
    exact (Prod.mk.inj (Option.some.inj (answered.symm.trans replied))).1
  | updateNodes nodes target reason answer =>
    obtain ⟨other, replied⟩ := here.updates reached nodes target reason
    exact (Prod.mk.inj (Option.some.inj (answered.symm.trans replied))).1
  | deleteAccelerator node zone answer =>
    obtain ⟨other, replied⟩ := here.removes reached node zone
    exact (Prod.mk.inj (Option.some.inj (answered.symm.trans replied))).1
  | deleteResourcePolicy | expandHostlist => trivial

/-- All calls of a run have their local answers. -/
theorem justified (here : HostLocal collaborators answers world) {events : List Event}
    {last : Session World} (performed : Performs collaborators (.start world) events last) :
    Justified answers.Gives [] events :=
  performed.justified fun reached answered => here.gives reached answered

theorem answering (here : HostLocal collaborators answers world) :
    Answering collaborators world where
  deletes := fun ⟨_, reached⟩ batch distinct =>
    let ⟨_, _, replied, _⟩ := here.deletes reached batch distinct
    ⟨_, _, replied⟩
  waits := fun ⟨_, reached⟩ operation => ⟨_, here.waits reached operation⟩
  lists := fun ⟨_, reached⟩ region namePart => ⟨_, here.lists reached region namePart⟩
  groups := fun ⟨_, reached⟩ region name => here.groups reached region name
  updates := fun ⟨_, reached⟩ nodes target reason =>
    ⟨_, here.updates reached nodes target reason⟩
  removes := fun ⟨_, reached⟩ node zone => ⟨_, here.removes reached node zone⟩

end HostLocal

end Scaledown
