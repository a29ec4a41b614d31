/-
This file moves nodes out of service and back.
-/

import Scaledown.Session
import Scaledown.Table
import Scaledown.Trigger

namespace Scaledown.Scheduler

/-- A node is in service, drained or powered down during a run. -/
inductive Phase where
  | schedulable
  | adminDown
  | powerDown
  deriving DecidableEq, Repr

/-- A node is drained and powered down, or powered down at once, and then it comes back. -/
def Phase.mayMoveTo : Phase → Phase → Bool
  | schedulable, adminDown => true
  | schedulable, powerDown => true
  | adminDown, powerDown => true
  | powerDown, schedulable => true
  | _, _ => false

structure Transition where
  hostname : String
  source : Phase
  target : Phase
  deriving DecidableEq, Repr

/-- The transitions are recorded in order. -/
structure NodeStates where
  phases : Table Phase
  history : List Transition
  deriving Repr

namespace NodeStates

def initial : NodeStates := ⟨[], []⟩

/-- A node that was never touched is schedulable. -/
def phase (states : NodeStates) (hostname : String) : Phase :=
  (states.phases.find? hostname).getD .schedulable

/-- An illegal move is refused and changes nothing. -/
def advance (target : Phase) (states : NodeStates) (hostname : String) : NodeStates :=
  let source := states.phase hostname
  if source.mayMoveTo target then
    ⟨states.phases.put hostname target, states.history ++ [⟨hostname, source, target⟩]⟩
  else states

def advanceAll (target : Phase) (hostnames : List String) (states : NodeStates) : NodeStates :=
  hostnames.foldl (advance target) states

variable {World : Type} (collaborators : Collaborators World)

/-- The phase of a node changes only after its command succeeded. -/
def issue (nodes : String) (target : Target) (reason : Option String) : Step World Bool := do
  match ← collaborators.updateNodes nodes target reason with
  | .ok () => return true
  | .error _ => return false

/-- A finished job drains its nodes and powers them down, and the idle policy has done so. -/
def takeOffline (expression : String) (hostnames : List String) (trigger : Trigger)
    (states : NodeStates) : Step World NodeStates :=
  match trigger with
  | .idle => return states.advanceAll .powerDown hostnames
  | .jobCompletion job => do
    let drained ← issue collaborators expression .down (some (Nat.repr job ++ " finishing"))
    let states := if drained then states.advanceAll .adminDown hostnames else states
    let poweredDown ← issue collaborators expression .powerDown none
    return if poweredDown then states.advanceAll .powerDown hostnames else states

/-- Only a node that is powered down is resumed. -/
def readmit (hostname : String) (states : NodeStates) : Step World (Bool × NodeStates) := do
  if (states.phase hostname).mayMoveTo .schedulable then
    let resumed ← issue collaborators hostname .resume none
    return if resumed then (true, states.advance .schedulable hostname) else (false, states)
  else return (false, states)

end NodeStates

end Scaledown.Scheduler
