/-
This file reads the pages of an inventory listing.
-/

import Scaledown.Compute.Instance
import Scaledown.Table

namespace Scaledown.Compute

/-- A page lists instances under the names of their scopes and may point to another page. -/
structure Page where
  scopes : List (String × List Instance)
  next : Option String
  deriving DecidableEq, Repr

namespace Page

def instancesOfJson? (json : Json) : Option (List Instance) := do
  let record ← json.record? ["instances"]
  record.withDefault "instances" [] (Json.array? Instance.ofJson?)

def scopeOfMember? (member : JsonText × Json) : Option (String × List Instance) := do
  return (← member.1, ← instancesOfJson? member.2)

/-- The scopes are the members of an object, and a later member replaces an earlier one. -/
def scopesOfJson? : Json → Option (List (String × List Instance))
  | .object members => do return Table.putAll [] (← members.mapM scopeOfMember?)
  | _ => none

def ofJson? (json : Json) : Option Page := do
  let record ← json.record? ["items", "nextPageToken"]
  let scopes ← record.withDefault "items" [] scopesOfJson?
  let next ← record.optional "nextPageToken" Json.text?
  return ⟨scopes, next⟩

/-- The zones of a region have its name and a dash in front. -/
def inRegion (region scope : String) : Bool :=
  (Text.dropStart? ("zones/" ++ region ++ "-").toList scope.toList).isSome

/-- The instances of the other scopes are left out. -/
def instancesIn (region : String) (page : Page) : List Instance :=
  (page.scopes.filter fun scope => inRegion region scope.1).flatMap Prod.snd

/-- An empty pointer points to no page. -/
def next? (page : Page) : Option String :=
  match page.next with
  | some token => if token = "" then none else some token
  | none => none

end Page

end Scaledown.Compute
