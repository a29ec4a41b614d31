/-
This file finds the zone of a node.
-/

import Scaledown.Session
import Scaledown.Suspend.Error

namespace Scaledown

/-- A node of a regional partition that is not listed is gone already. -/
inductive Location where
  | inZone (zone : String)
  | absent
  deriving DecidableEq, Repr

namespace Location

/-- An inventory tells the zones of the listed hosts, or why there is no listing. -/
abbrev Inventory := Except String (Table String)

/-- Each regional partition is listed at most once in a run. -/
abbrev Inventories := Table Inventory

/-- This function counts the partitions that were listed so far. -/
def lookups (known : Inventories) : Nat :=
  known.length

/-- A later entry of a listing replaces an earlier one of the same name. -/
def zonesOf (listed : List Compute.Instance) : Table String :=
  Table.putAll [] (listed.map fun found => (found.name, found.zoneName))

def inventoryOf : Except Compute.Error (List Compute.Instance) → Inventory
  | .ok listed => .ok (zonesOf listed)
  | .error error => .error error.message

/-- The inventory of its partition decides where a regional node is. -/
def inInventory (partition hostname : String) : Inventory → Except Suspend.Error Location
  | .error message => .error (.lookup partition message)
  | .ok zones =>
    match zones.find? hostname with
    | some zone => .ok (.inZone zone)
    | none => .ok .absent

variable {World : Type} (collaborators : Collaborators World)

/-- The first question about a partition lists it, and later ones use the same listing. -/
def inventory (partition region : String) (known : Inventories) :
    Step World (Inventory × Inventories) :=
  match known.find? partition with
  | some found => return (found, known)
  | none => do
    let found := inventoryOf (← collaborators.listInstances region partition)
    return (found, known.put partition found)

/-- A static partition has its zone in the configuration, and a regional one is looked up. -/
def resolve (config : Config) (hostname : String) (known : Inventories) :
    Step World (Except Suspend.Error Location × Inventories) :=
  let name := partitionOf hostname
  match config.partition name with
  | .error error => return (.error (.config error), known)
  | .ok partition =>
    if partition.regionalCapacity then
      match partition.effectiveRegion? with
      | none => return (.error (.config (.regionRequired name)), known)
      | some region => do
        let (found, known) ← inventory collaborators name region known
        return (inInventory name hostname found, known)
    else
      match partition.zone with
      | none => return (.error (.config (.zoneRequired name)), known)
      | some zone => return (.ok (.inZone zone), known)

end Location

end Scaledown
