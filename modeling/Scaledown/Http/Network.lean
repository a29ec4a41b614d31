/-
This file holds what the network answers to requests.
-/

import Scaledown.Http.Message
import Scaledown.Reply

namespace Scaledown.Http

/-- A server is not reached, or it is reached and closes, or it answers. -/
inductive Exchange where
  | unreachable
  | closed
  | answered (response : Response)
  deriving DecidableEq, Repr

structure Network (World : Type) where
  exchange : Request → Reply World Exchange

/-- A server that does not answer is as good as one that is not reached. -/
def Network.send {World : Type} (network : Network World) (request : Request) :
    Reply World (Except Fault Response) := do
  match ← network.exchange request with
  | .answered response => return .ok response
  | _ => return .error (.unanswered request.url)

/-- A request that cannot be built is not sent. -/
def Network.sendBuilt {World : Type} (network : Network World) :
    Except Fault Request → Reply World (Except Fault Response)
  | .error fault => return .error fault
  | .ok request => network.send request

end Scaledown.Http
