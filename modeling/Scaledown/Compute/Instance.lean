/-
This file holds the instances of an inventory listing.
-/

import Scaledown.Json.Record
import Scaledown.Node

namespace Scaledown.Compute

/-- The zone of an instance is a resource address. -/
structure Instance where
  name : String
  zone : String
  status : Option String
  deriving DecidableEq, Repr

namespace Instance

def zoneName (listed : Instance) : String :=
  lastSegment listed.zone

def ofJson? (json : Json) : Option Instance := do
  let record ← json.record? ["name", "zone", "status"]
  let name ← record.required "name" Json.text?
  let zone ← record.required "zone" Json.text?
  let status ← record.withDefault "status" none (Json.optional? Json.text?)
  return ⟨name, zone, status⟩

def ofText? (text : String) : Option Instance := do
  ofJson? (← Json.ofText? text)

end Instance

end Scaledown.Compute
