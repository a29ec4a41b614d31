/-
This file holds scripts of answers for simulated collaborators.
-/

import Scaledown.Session
import Scaledown.Text.Split

namespace Scaledown.Simulation

open Compute

/-- A script keeps the answers that are left for each key. -/
abbrev Script (α : Type) := Table (List α)

namespace Script

variable {α : Type}

/-- This function takes the next answer for a key, if one is left. -/
def next (script : Script α) (key : String) : Option α × Script α :=
  match script.find? key with
  | some (answer :: rest) => (some answer, script.put key rest)
  | _ => (none, script)

def size (script : Script α) : Nat :=
  (script.flatMap Prod.snd).length

end Script

/-- A request is answered as scripted, or it is left out of the answer. -/
inductive RequestReply where
  | missing
  | outcome (outcome : Outcome)
  | usual
  deriving Repr

/-- A poll fails, answers with another operation or changes the one that was sent. -/
inductive PollReply where
  | failure (error : Compute.Error)
  | replaced (operation : Operation)
  | updated (status : OperationStatus) (faults : Option (List OperationFault))
  deriving Repr

structure ProviderScript where
  batchErrors : List (Option Compute.Error)
  outcomes : Script RequestReply
  polls : Script PollReply
  inventory : Script (Except Compute.Error (List Instance))
  policies : Script (Except Compute.Error Operation)

/-- A rule fails the updates to its target, of its nodes only if it names them. -/
structure UpdateRule where
  target : Scheduler.Target
  nodes : Option String
  uses : Option Nat
  error : Scheduler.Error
  deriving Repr

structure SchedulerScript where
  hosts : Option (List String)
  expansionError : Option Scheduler.Error
  rules : List UpdateRule
  deriving Repr

/-- The script of a run tells the answers of all collaborators. -/
structure World where
  provider : ProviderScript
  scheduler : SchedulerScript
  accelerator : Table String

/-- No run needs more rounds or polls than there are scripted answers. -/
def World.patience (world : World) : Nat :=
  world.provider.outcomes.size + world.provider.polls.size + 2

namespace ProviderScript

/-- Without a script a request is accepted, and its operation is pending. -/
def usualOutcome (request : DeleteRequest) : Outcome :=
  .accepted { Operation.pending ("op-" ++ request.hostname) with
    zone := some ("zones/" ++ request.zone) }

/-- The requests are answered in order, and a later answer for a host replaces an earlier one. -/
def answerRequests : List DeleteRequest → Script RequestReply → BatchOutcome →
    BatchOutcome × Script RequestReply
  | [], script, outcomes => (outcomes, script)
  | request :: requests, script, outcomes =>
    let (reply, script) := script.next request.hostname
    match reply with
    | some .missing => answerRequests requests script outcomes
    | some (.outcome outcome) =>
      answerRequests requests script (outcomes.put request.hostname outcome)
    | _ => answerRequests requests script (outcomes.put request.hostname (usualOutcome request))

/-- A batch that fails as a whole takes no answers of its requests. -/
def deleteInstances (script : ProviderScript) (batch : List DeleteRequest) :
    Except Compute.Error BatchOutcome × ProviderScript :=
  match script.batchErrors with
  | some error :: rest => (.error error, { script with batchErrors := rest })
  | errors =>
    let (outcomes, left) := answerRequests batch script.outcomes []
    (.ok outcomes, { script with batchErrors := errors.tail, outcomes := left })

/-- Without a script an operation is done at once. -/
def waitOperation (script : ProviderScript) (operation : Operation) :
    Except Compute.Error Operation × ProviderScript :=
  let (reply, left) := script.polls.next operation.name
  let answer := match reply with
    | some (.failure error) => .error error
    | some (.replaced other) => .ok other
    | some (.updated status faults) =>
      .ok { operation with status := status, faults := faults.or operation.faults }
    | none => .ok { operation with status := .done }
  (answer, { script with polls := left })

def listInstances (script : ProviderScript) (region : String) :
    Except Compute.Error (List Instance) × ProviderScript :=
  let (reply, left) := script.inventory.next region
  (reply.getD (.ok []), { script with inventory := left })

/-- Without a script the deletion of a group is accepted, and its operation is pending. -/
def deleteResourcePolicy (script : ProviderScript) (region name : String) :
    Except Compute.Error Operation × ProviderScript :=
  let (reply, left) := script.policies.next name
  let usual := { Operation.pending ("op-" ++ name) with region := some ("regions/" ++ region) }
  (reply.getD (.ok usual), { script with policies := left })

end ProviderScript

namespace SchedulerScript

/-- Without a script an expression is a list of hosts with commas in between. -/
def expandHostlist (script : SchedulerScript) (expression : String) :
    Except Scheduler.Error (List String) :=
  match script.expansionError, script.hosts with
  | some error, _ => .error error
  | none, some hosts => .ok hosts
  | none, none =>
    let pieces := (Text.cutAll [','] expression.toList).filter (· ≠ [])
    if pieces = [] then .error (.emptyHostlist expression)
    else .ok (pieces.map String.ofList)

def UpdateRule.applies (rule : UpdateRule) (nodes : String) (target : Scheduler.Target) : Bool :=
  rule.target == target && (rule.nodes.isNone || rule.nodes == some nodes) && rule.uses != some 0

/-- The first rule that applies and has uses left is used once. -/
def useRule (nodes : String) (target : Scheduler.Target) :
    List UpdateRule → Option Scheduler.Error × List UpdateRule
  | [] => (none, [])
  | rule :: rules =>
    if UpdateRule.applies rule nodes target then
      (some rule.error, { rule with uses := rule.uses.map (· - 1) } :: rules)
    else
      let (found, left) := useRule nodes target rules
      (found, rule :: left)

end SchedulerScript

/-- This function runs an answer on one part of the world. -/
def onPart {Part α : Type} (part : World → Part) (update : World → Part → World)
    (answer : Part → α × Part) : Reply World α := fun world =>
  let (value, left) := answer (part world)
  some (value, update world left)

def onProvider {α : Type} (answer : ProviderScript → α × ProviderScript) : Reply World α :=
  onPart World.provider (fun world left => { world with provider := left }) answer

/-- The simulated provider answers from its script. -/
def provider : Provider World where
  deleteInstances _ batch := onProvider fun script => script.deleteInstances batch
  waitOperation _ operation := onProvider fun script => script.waitOperation operation
  listInstances _ region _ := onProvider fun script => script.listInstances region
  deleteResourcePolicy _ region name :=
    onProvider fun script => script.deleteResourcePolicy region name

/-- The simulated scheduler answers from its script. -/
def controller : Controller World where
  expandHostlist expression world := some (world.scheduler.expandHostlist expression, world)
  updateNodes nodes target _ world :=
    let (found, rules) := SchedulerScript.useRule nodes target world.scheduler.rules
    let answer := match found with
      | some error => .error error
      | none => .ok ()
    some (answer, { world with scheduler := { world.scheduler with rules := rules } })

/-- The simulated deleter fails for the scripted nodes. -/
def deleter : AcceleratorDeleter World where
  delete node _ world :=
    let answer := match world.accelerator.find? node with
      | some detail => .error detail
      | none => .ok ()
    some (answer, world)

def collaborators : Collaborators World :=
  ⟨provider, controller, deleter⟩

end Scaledown.Simulation
