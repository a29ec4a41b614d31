/-
This file holds the configuration of a cluster and the questions a run asks it.
-/

import Scaledown.Duration
import Scaledown.Node
import Scaledown.OperatingSystem.File
import Scaledown.Table
import Scaledown.Text.Quoted

namespace Scaledown

/-- A partition tells where its nodes live and how they are deleted. -/
structure Partition where
  zone : Option String
  region : Option String
  /-- The provider chose the zone when it made the node, so the zone is looked up. -/
  regionalCapacity : Bool
  acceleratorType : Option String
  exclusive : Bool
  enablePlacement : Bool
  machineType : Option String
  deriving DecidableEq, Repr

structure SuspendSettings where
  maxBatchRequests : Nat
  batchPause : String
  placementMaxMembers : Nat
  placementFamilies : List String
  operationPollInterval : String
  acceleratorCommand : String
  deriving DecidableEq, Repr

structure Config where
  project : String
  clusterName : String
  /-- The scheduler command is found by its name alone when no directory is set. -/
  schedulerDirectory : Option String
  logDirectory : Option String
  computeEndpoint : Option String
  /-- The metadata server hands out tokens when no key file is set. -/
  credentialsPath : Option String
  suspend : SuspendSettings
  partitions : Table Partition
  deriving Repr

namespace Partition

def empty : Partition := ⟨none, none, false, none, false, false, none⟩

/-- A partition holds accelerators when their type has a name. -/
def isAccelerator (partition : Partition) : Bool :=
  match partition.acceleratorType with
  | some kind => kind != ""
  | none => false

/-- The family is the nonempty start of the machine type before its first dash. -/
def machineFamily? (partition : Partition) : Option String := do
  let kind ← partition.machineType
  let family := kind.toList.takeWhile (· != '-')
  if family = [] then none else some (String.ofList family)

/-- A configured region wins over the one of the zone. -/
def effectiveRegion? (partition : Partition) : Option String :=
  partition.region.or (partition.zone.map regionOfZone)

end Partition

namespace SuspendSettings

def standard : SuspendSettings :=
  ⟨1000, "30s", 22, ["c2"], "1s", "gcloud"⟩

end SuspendSettings

namespace Config

/-- A configuration is refused or does not answer a question for one of these causes. -/
inductive Error where
  | unreadable (path detail : String)
  | unparsable
  | emptyProject
  | noBatchRequests
  | noPlacementMembers
  | duration (field value : String)
  | regionRequired (partition : String)
  | zoneRequired (partition : String)
  | unknownPartition (partition : String)
  deriving DecidableEq, Repr

namespace Error

def message : Error → String
  | unreadable path detail => "failed to read config file " ++ path ++ ": " ++ detail
  | unparsable => "failed to parse config"
  | emptyProject => "invalid config: project must not be empty"
  | noBatchRequests => "invalid config: suspend.max_batch_requests must be at least 1"
  | noPlacementMembers => "invalid config: suspend.placement_max_members must be at least 1"
  | duration field value => "invalid duration for " ++ field ++ ": " ++ Text.quoted value
  | regionRequired partition =>
    "invalid config: instance_defs." ++ partition ++ ": regional capacity requires a region"
  | zoneRequired partition =>
    "invalid config: instance_defs." ++ partition ++ ": zone is required"
  | unknownPartition partition => "no instance definition for partition: " ++ partition

/-- The deeper cause of an unreadable file is the answer of the system. -/
def causes : Error → List String
  | unreadable _ detail => [detail]
  | unparsable => ["the text is no configuration"]
  | _ => []

end Error

def defaultEndpoint : String := "https://compute.googleapis.com/compute/v1"

def effectiveEndpoint (config : Config) : String :=
  config.computeEndpoint.getD defaultEndpoint

def schedulerProgram (config : Config) : String :=
  match config.schedulerDirectory with
  | some directory => OperatingSystem.joinPath directory "scontrol"
  | none => "scontrol"

def partition (config : Config) (name : String) : Except Error Partition :=
  match config.partitions.find? name with
  | some found => .ok found
  | none => .error (.unknownPartition name)

def batchPause (config : Config) : Except Error Duration :=
  match Duration.ofText? config.suspend.batchPause with
  | some pause => .ok pause
  | none => .error (.duration "suspend.batch_pause" config.suspend.batchPause)

def operationPollInterval (config : Config) : Except Error Duration :=
  match Duration.ofText? config.suspend.operationPollInterval with
  | some interval => .ok interval
  | none =>
    .error (.duration "suspend.operation_poll_interval" config.suspend.operationPollInterval)

/-- Placement groups are made for the listed machine families, where the partition asks for them. -/
def placementEnabled (config : Config) (partition : Partition) : Bool :=
  partition.enablePlacement &&
    match partition.machineFamily? with
    | some family => config.suspend.placementFamilies.contains family
    | none => false

/-- A partition needs a region for regional capacity and a zone without it. -/
def validatePartition (name : String) (partition : Partition) : Except Error Unit :=
  if partition.regionalCapacity && partition.effectiveRegion?.isNone then
    .error (.regionRequired name)
  else if !partition.regionalCapacity && partition.zone.isNone then .error (.zoneRequired name)
  else .ok ()

def validatePartitions : Table Partition → Except Error Unit
  | [] => .ok ()
  | entry :: partitions =>
    match validatePartition entry.1 entry.2 with
    | .error error => .error error
    | .ok () => validatePartitions partitions

/-- The first fault in this order is reported. -/
def validate (config : Config) : Except Error Unit := do
  if Text.allBlank config.project.toList then throw .emptyProject
  if config.suspend.maxBatchRequests = 0 then throw .noBatchRequests
  if config.suspend.placementMaxMembers = 0 then throw .noPlacementMembers
  let _ ← config.batchPause
  let _ ← config.operationPollInterval
  validatePartitions config.partitions

end Config

end Scaledown
