/-
This file makes the requests of a client for one project.
-/

import Scaledown.Batch.Request
import Scaledown.Compute.Token

namespace Scaledown.Compute

/-- A client keeps the parts of its endpoint, its project and the source of its tokens. -/
structure Client where
  origin : String
  /-- The path of the service is empty or starts with a slash. -/
  root : String
  project : String
  source : TokenSource
  deriving DecidableEq, Repr

namespace Client

/-- The origin of an endpoint ends before the first slash after the scheme. -/
def splitEndpoint (endpoint : List Char) : List Char × List Char :=
  let (scheme, rest) := match Text.cutFirst? "://".toList endpoint with
    | some (scheme, rest) => (scheme ++ "://".toList, rest)
    | none => ([], endpoint)
  (scheme ++ rest.takeWhile (· != '/'), rest.dropWhile (· != '/'))

/-- Slashes at the end of an endpoint do not count. -/
def ofEndpoint (endpoint project : String) (source : TokenSource) : Client :=
  let (origin, root) := splitEndpoint (Text.trimEndBy (· == '/') endpoint.toList)
  ⟨String.ofList origin, String.ofList root, project, source⟩

def projectPath (client : Client) : String :=
  client.root ++ "/projects/" ++ client.project

def projectAddress (client : Client) : String :=
  client.origin ++ client.projectPath

def instancePath (client : Client) (request : DeleteRequest) : String :=
  client.projectPath ++ "/zones/" ++ request.zone ++ "/instances/" ++ request.hostname

/-- The address for batches stands beside the service. -/
def batchAddress (client : Client) : String :=
  client.origin ++ "/batch" ++ client.root

/-- An operation belongs to its zone, else to its region, else to the whole project. -/
def scopeOf (operation : Operation) : String :=
  match operation.zoneName?, operation.regionName? with
  | some zone, _ => "zones/" ++ zone
  | none, some region => "regions/" ++ region
  | none, none => "global"

def waitAddress (client : Client) (operation : Operation) : String :=
  client.projectAddress ++ "/" ++ scopeOf operation ++ "/operations/" ++ operation.name ++ "/wait"

def policyAddress (client : Client) (region name : String) : String :=
  client.projectAddress ++ "/regions/" ++ region ++ "/resourcePolicies/" ++ name

def inventoryAddress (client : Client) : String :=
  client.projectAddress ++ "/aggregated/instances"

def authorization (token : String) : String × String :=
  ("authorization", "Bearer " ++ token)

/-- One part of the body asks for one deletion. -/
def batchBody (client : Client) (batch : List DeleteRequest) : String :=
  Batch.renderCalls (batch.map fun request =>
    ⟨request.hostname, client.instancePath request⟩)

def batchRequest (client : Client) (token : String) (batch : List DeleteRequest) :
    Except Http.Fault Http.Request :=
  let body := client.batchBody batch
  Http.Request.build .post client.batchAddress []
    [authorization token,
     ("content-type", "multipart/mixed; boundary=" ++ Batch.outgoingBoundary),
     ("content-length", Nat.repr body.utf8ByteSize)]
    (some body)

def waitRequest (client : Client) (token : String) (operation : Operation) :
    Except Http.Fault Http.Request :=
  Http.Request.build .post (client.waitAddress operation) []
    [authorization token, ("content-length", "0")] none

def policyRequest (client : Client) (token region name : String) :
    Except Http.Fault Http.Request :=
  Http.Request.build .delete (client.policyAddress region name) [] [authorization token] none

/-- The listing is narrowed to names with the given start and to the fields in use. -/
def inventoryQuery (namePart : String) (page : Option String) : List (String × String) :=
  [("filter", "name eq '" ++ namePart ++ "-.*'"),
   ("fields", "items/*/instances(name,zone,status),nextPageToken")] ++
    (page.map fun token => ("pageToken", token)).toList

def inventoryRequest (client : Client) (token namePart : String) (page : Option String) :
    Except Http.Fault Http.Request :=
  Http.Request.build .get client.inventoryAddress (inventoryQuery namePart page)
    [authorization token] none

end Client

end Scaledown.Compute
