/-
This file names the placement groups of a job.
-/

namespace Scaledown.Placement

/-- The count is the number of groups that hold the nodes, rounded up. -/
def groupCount (nodes limit : Nat) : Nat :=
  if limit = 0 then 0 else (nodes + limit - 1) / limit

def groupName (cluster : String) (job index : Nat) : String :=
  cluster ++ "-" ++ Nat.repr job ++ "-" ++ Nat.repr index

/-- The groups of a job are numbered from one. -/
def groupNames (cluster : String) (job nodes limit : Nat) : List String :=
  (List.range (groupCount nodes limit)).map fun index => groupName cluster job (index + 1)

end Scaledown.Placement
