/-
This file gets access tokens and keeps them until shortly before they expire.
-/

import Scaledown.Compute.Account
import Scaledown.Compute.Answer
import Scaledown.Http.Network

namespace Scaledown.Compute

/-- A token is used before the given time in milliseconds. -/
structure CachedToken where
  value : String
  expiresAt : Nat
  deriving DecidableEq, Repr

/-- A server hands out a token with its lifetime in seconds. -/
structure TokenGrant where
  value : String
  lifetime : Nat
  deriving DecidableEq, Repr

def TokenGrant.ofJson? (json : Json) : Option TokenGrant := do
  let record ← json.record? ["access_token", "expires_in"]
  return ⟨← record.required "access_token" Json.text?,
    ← record.required "expires_in" Json.word64?⟩

/-- A token is dropped some seconds before the end of its lifetime. -/
def CachedToken.ofGrant (margin time : Nat) (grant : TokenGrant) : CachedToken :=
  ⟨grant.value, time + (grant.lifetime - margin) * 1000⟩

def CachedToken.isFresh (time : Nat) (token : CachedToken) : Bool :=
  time < token.expiresAt

/-- Tokens are fixed, or they come from the metadata server or from the server of an account. -/
inductive TokenSource where
  | fixed (token : String)
  | metadata
  | account (account : Account)
  deriving DecidableEq, Repr

/-- An error about a key file names the file. -/
def TokenSource.ofKeyFile (path : String)
    (content : Except OperatingSystem.FileFault (List UInt8)) :
    Except Compute.Error TokenSource :=
  match Account.ofFile content with
  | .ok found => .ok (.account found)
  | .error fault => .error (.unauthorized (path ++ ": " ++ fault.message))

/-- A client that is online keeps its latest token beside the world. -/
structure Online (World : Type) where
  token : Option CachedToken
  world : World
  deriving DecidableEq, Repr

/-- This reply comes from the world and leaves the token as it is. -/
def Online.lift {World α : Type} (reply : Reply World α) : Reply (Online World) α :=
  Reply.onPart Online.world (fun online world => { online with world := world }) reply

namespace Token

def metadataAddress : String :=
  "http://metadata.google.internal/computeMetadata/v1/instance/service-accounts/default/token"

/-- A token of the metadata server is dropped this many seconds early. -/
def metadataMargin : Nat := 60

/-- A token of an account is dropped this many seconds early. -/
def accountMargin : Nat := 20

/-- The metadata server wants to see a header of its own. -/
def metadataRequest : Except Http.Fault Http.Request :=
  Http.Request.build .get metadataAddress [] [("metadata-flavor", "Google")] none

/-- The assertion of an account is not part of this library, so the request has no body. -/
def accountRequest (account : Account) : Except Http.Fault Http.Request :=
  Http.Request.build .post account.tokenAddress [] [] none

variable {World : Type} (network : Http.Network World)

def fetchFromMetadata : Reply World (Except Compute.Error TokenGrant) := do
  match ← network.sendBuilt metadataRequest with
  | .error fault => return .error (.unauthorized fault.message)
  | .ok response =>
    match readAnswer TokenGrant.ofJson? response with
    | .error error => return .error (.unauthorized error.message)
    | .ok grant => return .ok grant

/-- The server of an account tells how far a request came. -/
def fetchForAccount (account : Account) : Reply World (Except Compute.Error TokenGrant) := do
  match accountRequest account with
  | .error fault => return .error (.unauthorized fault.message)
  | .ok request =>
    match ← network.exchange request with
    | .unreachable => return .error (.unauthorized "HTTP request failed: client error (Connect)")
    | .closed =>
      return .error (.unauthorized "HTTP request failed: client error (SendRequest)")
    | .answered response =>
      if !response.succeeded then return .error (.unauthorized "HTTP request failed")
      else
        match readAnswer TokenGrant.ofJson? response with
        | .error _ =>
          return .error (.unauthorized "failed to deserialize token from response")
        | .ok grant => return .ok grant

/-- A fresh token is used again, and a failed fetch leaves the latest token as it is. -/
def cached (margin time : Nat) (fetch : Reply World (Except Compute.Error TokenGrant)) :
    Reply (Online World) (Except Compute.Error String) := do
  match (← get).token with
  | some token => if token.isFresh time then return .ok token.value else renew
  | none => renew
where
  renew : Reply (Online World) (Except Compute.Error String) := do
    match ← Online.lift fetch with
    | .error error => return .error error
    | .ok grant =>
      modify fun online => { online with token := some (.ofGrant margin time grant) }
      return .ok grant.value

def access (time : Nat) : TokenSource → Reply (Online World) (Except Compute.Error String)
  | .fixed token => return .ok token
  | .metadata => cached metadataMargin time (fetchFromMetadata network)
  | .account account => cached accountMargin time (fetchForAccount network account)

end Token

end Scaledown.Compute
