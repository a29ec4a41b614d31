/-
This file tells the partition of a node and the region of a zone by their names.
-/

import Scaledown.Text.Split

namespace Scaledown

/-- The part before the last dash is kept, and a name without a dash is kept whole. -/
def beforeLastDash (name : String) : String :=
  match Text.cutLast? '-' name.toList with
  | some (front, _) => String.ofList front
  | none => name

/-- A hostname is the name of its partition, a dash and an index. -/
def partitionOf (hostname : String) : String :=
  beforeLastDash hostname

/-- A zone is the name of its region, a dash and a letter. -/
def regionOfZone (zone : String) : String :=
  beforeLastDash zone

/-- The last segment of a resource address is the name of the resource. -/
def lastSegment (address : String) : String :=
  match Text.cutLast? '/' address.toList with
  | some (_, segment) => String.ofList segment
  | none => address

end Scaledown
