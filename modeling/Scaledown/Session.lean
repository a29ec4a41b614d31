/-
This file holds the collaborators of a run and the session in which a run calls them.
-/

import Scaledown.Compute.Instance
import Scaledown.Compute.Outcome
import Scaledown.Duration
import Scaledown.Reply
import Scaledown.Scheduler.Basic

namespace Scaledown

/-- The provider owns the instances. It sees the time of each call in milliseconds. -/
structure Provider (World : Type) where
  deleteInstances :
    Nat → List Compute.DeleteRequest → Reply World (Except Compute.Error Compute.BatchOutcome)
  waitOperation : Nat → Compute.Operation → Reply World (Except Compute.Error Compute.Operation)
  listInstances :
    Nat → String → String → Reply World (Except Compute.Error (List Compute.Instance))
  deleteResourcePolicy :
    Nat → String → String → Reply World (Except Compute.Error Compute.Operation)

/-- The scheduler owns the states of the nodes. -/
structure Controller (World : Type) where
  expandHostlist : String → Reply World (Except Scheduler.Error (List String))
  updateNodes :
    String → Scheduler.Target → Option String → Reply World (Except Scheduler.Error Unit)

/-- Accelerator nodes are deleted one by one, and a failure is told by a message. -/
structure AcceleratorDeleter (World : Type) where
  delete : String → String → Reply World (Except String Unit)

structure Collaborators (World : Type) where
  provider : Provider World
  scheduler : Controller World
  accelerator : AcceleratorDeleter World

/-- An event is one call of a collaborator with its answer. -/
inductive Event where
  | deleteInstances (batch : List Compute.DeleteRequest)
      (answer : Except Compute.Error Compute.BatchOutcome)
  | waitOperation (operation : Compute.Operation)
      (answer : Except Compute.Error Compute.Operation)
  | listInstances (region namePart : String)
      (answer : Except Compute.Error (List Compute.Instance))
  | deleteResourcePolicy (region name : String)
      (answer : Except Compute.Error Compute.Operation)
  | expandHostlist (expression : String) (answer : Except Scheduler.Error (List String))
  | updateNodes (nodes : String) (target : Scheduler.Target) (reason : Option String)
      (answer : Except Scheduler.Error Unit)
  | deleteAccelerator (node zone : String) (answer : Except String Unit)

/-- Each event keeps the time at which its call was made. -/
structure TimedEvent where
  time : Nat
  event : Event

/-- The clock of a session counts milliseconds and moves only while the run sleeps. -/
structure Session (World : Type) where
  world : World
  time : Nat
  history : List TimedEvent

def Session.start {World : Type} (world : World) : Session World :=
  ⟨world, 0, []⟩

/-- A step of a run changes the session, and it has no result when a collaborator never answers
or the patience of the run is used up. -/
abbrev Step (World α : Type) := StateT (Session World) Option α

namespace Step

variable {World α : Type}

/-- This step calls a collaborator and records the call with its answer. -/
def call (reply : Nat → Reply World α) (event : α → Event) : Step World α := fun session => do
  let (answer, world) ← reply session.time session.world
  return (answer,
    { session with
      world := world
      history := session.history ++ [⟨session.time, event answer⟩] })

/-- The longest sleep lasts thirty years of 365 days. -/
def longestSleep : Duration := ⟨946080000000⟩

/-- A longer duration is cut to the longest sleep. -/
def sleep (duration : Duration) : Step World Unit := fun session =>
  some ((), { session with time := session.time + min duration.millis longestSleep.millis })

end Step

namespace Collaborators

variable {World : Type} (collaborators : Collaborators World)

def deleteInstances (batch : List Compute.DeleteRequest) :
    Step World (Except Compute.Error Compute.BatchOutcome) :=
  .call (fun time => collaborators.provider.deleteInstances time batch) (.deleteInstances batch)

def waitOperation (operation : Compute.Operation) :
    Step World (Except Compute.Error Compute.Operation) :=
  .call (fun time => collaborators.provider.waitOperation time operation)
    (.waitOperation operation)

def listInstances (region namePart : String) :
    Step World (Except Compute.Error (List Compute.Instance)) :=
  .call (fun time => collaborators.provider.listInstances time region namePart)
    (.listInstances region namePart)

def deleteResourcePolicy (region name : String) :
    Step World (Except Compute.Error Compute.Operation) :=
  .call (fun time => collaborators.provider.deleteResourcePolicy time region name)
    (.deleteResourcePolicy region name)

def expandHostlist (expression : String) : Step World (Except Scheduler.Error (List String)) :=
  .call (fun _ => collaborators.scheduler.expandHostlist expression) (.expandHostlist expression)

def updateNodes (nodes : String) (target : Scheduler.Target) (reason : Option String) :
    Step World (Except Scheduler.Error Unit) :=
  .call (fun _ => collaborators.scheduler.updateNodes nodes target reason)
    (.updateNodes nodes target reason)

def deleteAccelerator (node zone : String) : Step World (Except String Unit) :=
  .call (fun _ => collaborators.accelerator.delete node zone) (.deleteAccelerator node zone)

end Collaborators

end Scaledown
