/-
This file reads configurations from their TOML text.
-/

import Scaledown.Config.Basic
import Scaledown.Text.Utf8
import Scaledown.Toml.Document
import Scaledown.Toml.Record

namespace Scaledown

def Partition.ofToml? (toml : Toml) : Option Partition := do
  let record ← toml.record?
    ["zone", "region", "regional_capacity", "tpu_type", "exclusive", "enable_placement",
      "machine_type"]
  let text := fun name => Toml.fieldOr record name none fun found => found.text?.map some
  let flag := fun name => Toml.fieldOr record name false Toml.flag?
  return ⟨← text "zone", ← text "region", ← flag "regional_capacity", ← text "tpu_type",
    ← flag "exclusive", ← flag "enable_placement", ← text "machine_type"⟩

/-- A missing setting takes its standard value. -/
def SuspendSettings.ofToml? (toml : Toml) : Option SuspendSettings := do
  let record ← toml.record?
    ["max_batch_requests", "batch_pause", "placement_max_members", "placement_families",
      "operation_poll_interval", "tpu_delete_command"]
  let usual := SuspendSettings.standard
  return ⟨← Toml.fieldOr record "max_batch_requests" usual.maxBatchRequests Toml.count?,
    ← Toml.fieldOr record "batch_pause" usual.batchPause Toml.text?,
    ← Toml.fieldOr record "placement_max_members" usual.placementMaxMembers Toml.count?,
    ← Toml.fieldOr record "placement_families" usual.placementFamilies
      (Toml.items? Toml.text?),
    ← Toml.fieldOr record "operation_poll_interval" usual.operationPollInterval Toml.text?,
    ← Toml.fieldOr record "tpu_delete_command" usual.acceleratorCommand Toml.text?⟩

namespace Config

def ofToml? (toml : Toml) : Option Config := do
  let record ← toml.record?
    ["project", "cluster_name", "slurm_cmd_path", "log_dir", "compute_endpoint",
      "google_app_cred_path", "suspend", "instance_defs"]
  let text := fun name => Toml.fieldOr record name none fun found => found.text?.map some
  return ⟨← Toml.requiredField record "project" Toml.text?,
    ← Toml.requiredField record "cluster_name" Toml.text?,
    ← text "slurm_cmd_path", ← text "log_dir", ← text "compute_endpoint",
    ← text "google_app_cred_path",
    ← Toml.fieldOr record "suspend" SuspendSettings.standard SuspendSettings.ofToml?,
    ← Toml.fieldOr record "instance_defs" [] (Toml.entries? Partition.ofToml?)⟩

/-- This function reads a configuration without validating it. -/
def read (text : String) : Except Error Config :=
  match (Toml.ofText? text).bind ofToml? with
  | some config => .ok config
  | none => .error .unparsable

/-- A text is accepted when it can be read and the result is valid. -/
def ofText (text : String) : Except Error Config := do
  let config ← read text
  config.validate
  return config

/-- A configuration file holds UTF-8 text. -/
def ofFile (path : String) (contents : Except OperatingSystem.FileFault (List UInt8)) :
    Except Error Config :=
  match contents with
  | .error fault => .error (.unreadable path fault.message)
  | .ok bytes =>
    match Text.ofBytes? bytes with
    | none => .error (.unreadable path "stream did not contain valid UTF-8")
    | some text => ofText text

end Config

end Scaledown
