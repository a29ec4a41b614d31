/-
This file tells when a part of a run ends, given enough patience.
-/

import Scaledown.Proofs.Deletion.Round

namespace Scaledown

open Compute Deletion

variable {World α β : Type}

/-- A run that started in this world may have come to this session. -/
def Arrives (collaborators : Collaborators World) (world : World) (session : Session World) :
    Prop :=
  ∃ events, Performs collaborators (.start world) events session

/-- With enough patience these steps end, always in the same way. -/
def Ends (collaborators : Collaborators World) (world : World) (steps : Nat → Step World α)
    (session : Session World) : Prop :=
  ∃ result last bound, Arrives collaborators world last ∧
    ∀ patience, bound ≤ patience → steps patience session = some (result, last)

variable {collaborators : Collaborators World} {world : World} {session last : Session World}

theorem Arrives.after {events : List Event} (arrived : Arrives collaborators world session)
    (performed : Performs collaborators session events last) :
    Arrives collaborators world last := by
  obtain ⟨earlier, reached⟩ := arrived
  exact ⟨_, reached.trans performed⟩

namespace Ends

theorem of_eq_some {step : Step World α} {result : α} (arrived : Arrives collaborators world last)
    (done : step session = some (result, last)) :
    Ends collaborators world (fun _ => step) session :=
  ⟨result, last, 0, arrived, fun _ _ => done⟩

theorem pure (value : α) (arrived : Arrives collaborators world session) :
    Ends collaborators world (fun _ => Pure.pure value) session :=
  of_eq_some arrived rfl

/-- A sequence of two parts ends when the second one ends after every end of the first. -/
theorem bind {steps : Nat → Step World α} {next : Nat → α → Step World β}
    (first : Ends collaborators world steps session)
    (second : ∀ patience value middle, steps patience session = some (value, middle) →
      Arrives collaborators world middle →
      Ends collaborators world (fun patience => next patience value) middle) :
    Ends collaborators world (fun patience => steps patience >>= next patience) session := by
  obtain ⟨value, middle, bound, arrived, ended⟩ := first
  obtain ⟨result, last, later, reached, finished⟩ :=
    second bound value middle (ended bound le_rfl) arrived
  refine ⟨result, last, max bound later, reached, fun patience enough => ?_⟩
  refine Step.bind_eq_some.2 ⟨value, middle, ended patience ?_, finished patience ?_⟩
  · exact (le_max_left _ _).trans enough
  · exact (le_max_right _ _).trans enough

/-- One more unit of patience is always there. -/
theorem of_succ {steps : Nat → Step World α}
    (ends : Ends collaborators world (fun patience => steps (patience + 1)) session) :
    Ends collaborators world steps session := by
  obtain ⟨result, last, bound, arrived, ended⟩ := ends
  refine ⟨result, last, bound + 1, arrived, fun patience enough => ?_⟩
  obtain ⟨less, rfl⟩ := Nat.exists_eq_succ_of_ne_zero (Nat.ne_zero_of_lt enough)
  exact ended less (Nat.le_of_succ_le_succ enough)

theorem sleep (duration : Duration) (arrived : Arrives collaborators world session) :
    Ends collaborators world (fun _ => Step.sleep duration) session :=
  of_eq_some (arrived.after (.sleep _ (.nothing _))) rfl

/-- A call ends when its collaborator replies. -/
theorem call {reply : Nat → Reply World α} {event : α → Event} {answer : α} {after : World}
    (arrived : Arrives collaborators world session)
    (replied : reply session.time session.world = some (answer, after))
    (performs : ∀ {answer last}, Step.call reply event session = some (answer, last) →
      Performs collaborators session [event answer] last) :
    Ends collaborators world (fun _ => Step.call reply event) session :=
  .of_eq_some (arrived.after (performs (Step.call_eq_some replied))) (Step.call_eq_some replied)

end Ends

/-- Whatever was called since the start, the collaborators answer the next call about a host. -/
structure Answering (collaborators : Collaborators World) (world : World) : Prop where
  deletes : ∀ {session}, Arrives collaborators world session →
    ∀ batch, (hostsOf batch).Nodup → ∃ answer after,
      collaborators.provider.deleteInstances session.time batch session.world =
        some (answer, after)
  waits : ∀ {session}, Arrives collaborators world session → ∀ operation, ∃ answer after,
    collaborators.provider.waitOperation session.time operation session.world =
      some (answer, after)
  lists : ∀ {session}, Arrives collaborators world session → ∀ region namePart, ∃ answer after,
    collaborators.provider.listInstances session.time region namePart session.world =
      some (answer, after)
  groups : ∀ {session}, Arrives collaborators world session → ∀ region name, ∃ answer after,
    collaborators.provider.deleteResourcePolicy session.time region name session.world =
      some (answer, after)
  updates : ∀ {session}, Arrives collaborators world session →
    ∀ nodes target reason, ∃ answer after,
      collaborators.scheduler.updateNodes nodes target reason session.world =
        some (answer, after)
  removes : ∀ {session}, Arrives collaborators world session → ∀ node zone, ∃ answer after,
    collaborators.accelerator.delete node zone session.world = some (answer, after)

namespace Answering

theorem waitOperation_ends (answering : Answering collaborators world)
    (arrived : Arrives collaborators world session) (operation : Operation) :
    Ends collaborators world (fun _ => collaborators.waitOperation operation) session := by
  obtain ⟨answer, after, replied⟩ := answering.waits arrived operation
  exact .call arrived replied Collaborators.waitOperation_performs

theorem listInstances_ends (answering : Answering collaborators world)
    (arrived : Arrives collaborators world session) (region namePart : String) :
    Ends collaborators world (fun _ => collaborators.listInstances region namePart) session := by
  obtain ⟨answer, after, replied⟩ := answering.lists arrived region namePart
  exact .call arrived replied Collaborators.listInstances_performs

theorem deleteResourcePolicy_ends (answering : Answering collaborators world)
    (arrived : Arrives collaborators world session) (region name : String) :
    Ends collaborators world (fun _ => collaborators.deleteResourcePolicy region name)
      session := by
  obtain ⟨answer, after, replied⟩ := answering.groups arrived region name
  exact .call arrived replied Collaborators.deleteResourcePolicy_performs

theorem updateNodes_ends (answering : Answering collaborators world)
    (arrived : Arrives collaborators world session) (nodes : String) (target : Scheduler.Target)
    (reason : Option String) :
    Ends collaborators world (fun _ => collaborators.updateNodes nodes target reason)
      session := by
  obtain ⟨answer, after, replied⟩ := answering.updates arrived nodes target reason
  exact .call arrived replied Collaborators.updateNodes_performs

theorem deleteAccelerator_ends (answering : Answering collaborators world)
    (arrived : Arrives collaborators world session) (node zone : String) :
    Ends collaborators world (fun _ => collaborators.deleteAccelerator node zone) session := by
  obtain ⟨answer, after, replied⟩ := answering.removes arrived node zone
  exact .call arrived replied Collaborators.deleteAccelerator_performs

end Answering

end Scaledown
