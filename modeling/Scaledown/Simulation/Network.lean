/-
This file holds a simulated network with scripted answers.
-/

import Scaledown.Http.Network

namespace Scaledown.Simulation

open Http

/-- A network that is not reachable takes no request. -/
structure ScriptedNetwork where
  reachable : Bool
  answers : List (Option Response)
  requests : List Request
  deriving DecidableEq, Repr

namespace ScriptedNetwork

/-- A network without a connection. -/
def disconnected : ScriptedNetwork := ⟨false, [], []⟩

/-- A server that has no answer left closes the connection. -/
def exchange (network : ScriptedNetwork) (request : Request) : Exchange × ScriptedNetwork :=
  if network.reachable then
    let answer := match network.answers with
      | some response :: _ => .answered response
      | _ => .closed
    (answer, ⟨true, network.answers.tail, network.requests ++ [request]⟩)
  else (.unreachable, network)

end ScriptedNetwork

def network : Network ScriptedNetwork where
  exchange request network := some (network.exchange request)

end Scaledown.Simulation
