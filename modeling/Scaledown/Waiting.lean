/-
This file waits for operations and brings confirmed nodes back into service.
-/

import Scaledown.Scheduler.NodeStates
import Scaledown.Suspend.Error

namespace Scaledown.Waiting

open Compute

/-- A finished operation succeeds when it carries no error items. -/
def settled (operation : Operation) : Except Suspend.Error Operation :=
  match operation.errorMessage? with
  | some message => .error (.operationFailed operation.name message)
  | none => .ok operation

variable {World : Type} (collaborators : Collaborators World)

/-- An operation that comes back unfinished is polled again after the interval. -/
def wait (interval : Duration) : Nat → Operation → Step World (Except Suspend.Error Operation)
  | 0, operation => if operation.isDone then return settled operation else failure
  | patience + 1, operation =>
    if operation.isDone then return settled operation
    else do
      match ← collaborators.waitOperation operation with
      | .error error => return .error (.compute error)
      | .ok latest =>
        if !latest.isDone then Step.sleep interval
        wait interval patience latest

/-- The report tells what became of the accepted deletions. -/
structure Report where
  confirmed : List String
  readmitted : List String
  failed : Table String
  deriving DecidableEq, Repr

def Report.empty : Report := ⟨[], [], []⟩

def Report.addFailed (report : Report) (hostname : String) (error : Suspend.Error) : Report :=
  { report with failed := report.failed.put hostname error.message }

def Report.addConfirmed (report : Report) (hostname : String) (resumed : Bool) : Report :=
  { report with
    confirmed := report.confirmed ++ [hostname]
    readmitted := if resumed then report.readmitted ++ [hostname] else report.readmitted }

/-- A node comes back as soon as its own operation succeeds, and stays down otherwise. -/
def confirmOne (interval : Duration) (patience : Nat) (hostname : String) (operation : Operation)
    (report : Report) (states : Scheduler.NodeStates) :
    Step World (Report × Scheduler.NodeStates) := do
  match ← wait collaborators interval patience operation with
  | .error error => return (report.addFailed hostname error, states)
  | .ok _ =>
    let (resumed, states) ← Scheduler.NodeStates.readmit collaborators hostname states
    return (report.addConfirmed hostname resumed, states)

/-- The operations are waited for in turn. -/
def confirmAndReadmit (interval : Duration) (patience : Nat) :
    List (String × Operation) → Report → Scheduler.NodeStates →
      Step World (Report × Scheduler.NodeStates)
  | [], report, states => return (report, states)
  | (hostname, operation) :: rest, report, states => do
    let (report, states) ←
      confirmOne collaborators interval patience hostname operation report states
    confirmAndReadmit interval patience rest report states

end Scaledown.Waiting
