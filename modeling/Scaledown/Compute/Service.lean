/-
This file answers the calls of a run through the web service of the provider.
-/

import Scaledown.Compute.Client
import Scaledown.Compute.Inventory
import Scaledown.Session

namespace Scaledown.Compute.Client

variable {World : Type} (client : Client) (network : Http.Network World)

/-- This reply gets a token first and then sends one request with it. -/
def withToken {α : Type} (time : Nat) (use : String → Reply World (Except Compute.Error α)) :
    Reply (Online World) (Except Compute.Error α) := do
  match ← Token.access network time client.source with
  | .error error => return .error error
  | .ok token => Online.lift (use token)

/-- A request that fails on the way is a transport error. -/
def exchange {α : Type} (request : Except Http.Fault Http.Request)
    (read : Http.Response → Except Compute.Error α) : Reply World (Except Compute.Error α) := do
  match ← network.sendBuilt request with
  | .error fault => return .error (.transport fault.message)
  | .ok response => return read response

/-- An empty batch needs no request. -/
def deleteInstances (time : Nat) (batch : List DeleteRequest) :
    Reply (Online World) (Except Compute.Error BatchOutcome) :=
  if batch = [] then return .ok []
  else client.withToken network time fun token =>
    exchange network (client.batchRequest token batch) readBatch

def waitOperation (time : Nat) (operation : Operation) :
    Reply (Online World) (Except Compute.Error Operation) :=
  client.withToken network time fun token =>
    exchange network (client.waitRequest token operation) (readAnswer Operation.ofJson?)

def deleteResourcePolicy (time : Nat) (region name : String) :
    Reply (Online World) (Except Compute.Error Operation) :=
  client.withToken network time fun token =>
    exchange network (client.policyRequest token region name) (readAnswer Operation.ofJson?)

/-- Each page names the next one until a page names none. -/
def listPages (token region namePart : String) :
    Nat → Option String → List Instance → Reply World (Except Compute.Error (List Instance))
  | 0, _, _ => failure
  | patience + 1, page, found => do
    match ← exchange network (client.inventoryRequest token namePart page)
        (readAnswer Page.ofJson?) with
    | .error error => return .error error
    | .ok answer =>
      let found := found ++ answer.instancesIn region
      match answer.next? with
      | some next => listPages token region namePart patience (some next) found
      | none => return .ok found

/-- The patience of a listing bounds the number of its pages. -/
def listInstances (patience time : Nat) (region namePart : String) :
    Reply (Online World) (Except Compute.Error (List Instance)) :=
  client.withToken network time fun token =>
    client.listPages network token region namePart patience none []

/-- The web service is the provider of a client that is online. -/
def provider (patience : Nat) : Provider (Online World) where
  deleteInstances := client.deleteInstances network
  waitOperation := client.waitOperation network
  listInstances := client.listInstances network patience
  deleteResourcePolicy := client.deleteResourcePolicy network

end Scaledown.Compute.Client
