/-
This file tells what becomes of one node when no other node is looked at.
-/

import Scaledown.Proofs.Deletion.Locality
import Scaledown.Proofs.Suspend.Selection
import Scaledown.Proofs.Table
import Scaledown.Proofs.Text.Split
import Scaledown.Proofs.Waiting.Locality

namespace Scaledown

open Compute Deletion Suspend Waiting

/-- The last dash of a name and what follows it do not count. -/
def nameBeforeDash (name : String) : String :=
  if '-' ∈ name.toList then String.ofList (name.toList.rdropWhile (· ≠ '-')).dropLast else name

theorem beforeLastDash_eq (name : String) : beforeLastDash name = nameBeforeDash name := by
  unfold beforeLastDash nameBeforeDash
  by_cases dashed : '-' ∈ name.toList
  · obtain ⟨front, final, found, whole, outside⟩ := Text.exists_cutLast? dashed
    have plain : ∀ c ∈ final.reverse, decide (c ≠ '-') = true := by
      rintro c inside
      refine decide_eq_true fun dash => outside ?_
      rwa [← dash, ← List.mem_reverse]
    rw [found, if_pos dashed, whole, List.rdropWhile, List.reverse_append, List.reverse_cons,
      List.append_assoc, List.dropWhile_append_of_pos plain]
    simp
  · rw [Text.cutLast?_eq_none dashed, if_neg dashed]

namespace Location

variable {instances : List Instance} {host : String} (partition : String)

theorem inInventory_of_not_mem (outside : host ∉ instances.map Instance.name) :
    inInventory partition host (inventoryOf (.ok instances)) = .ok .absent :=
  inInventory_eq_absent_iff.2 ⟨instances, rfl, fun found listed named =>
    outside (List.mem_map.2 ⟨found, listed, named⟩)⟩

theorem inInventory_of_mem (inside : host ∈ instances.map Instance.name) :
    ∃ zone, inInventory partition host (inventoryOf (.ok instances)) = .ok (.inZone zone) := by
  cases place : inInventory partition host (inventoryOf (.ok instances)) with
  | error error =>
    obtain ⟨reason, failed, -⟩ := inInventory_eq_error place
    cases failed
  | ok location =>
    cases location with
    | inZone zone => exact ⟨zone, rfl⟩
    | absent =>
      obtain ⟨_, same, others⟩ := inInventory_eq_absent_iff.1 place
      obtain rfl := Except.ok.inj same
      obtain ⟨found, listed, named⟩ := List.mem_map.1 inside
      exact absurd named (others found listed)

end Location

namespace Suspend

/-- A node is deleted and comes back or not, or it is absent, skipped or failed. -/
inductive Disposition where
  | deleted (readmitted : Bool)
  | absent
  | skipped
  | failed (reason : String)
  deriving DecidableEq, Repr

/-- All entries of a report about one host are read together. -/
def Report.dispositions (report : Report) (host : String) : List Disposition :=
  (report.deleted.filter (· == host)).map
      (fun _ => .deleted (report.readmitted.contains host)) ++
    (report.failed.filter (·.1 == host)).map (fun entry => .failed entry.2) ++
    (report.absent.filter (· == host)).map (fun _ => .absent) ++
    (report.skipped.filter (· == host)).map (fun _ => .skipped)

end Suspend

namespace LocalAnswers

variable (answers : LocalAnswers)

/-- A deleted node comes back when nothing has kept it from being powered down and its own order to
resume is accepted. -/
def comesBack (request : Request) (host : String) : Bool :=
  match request.trigger, answers.update request.hostlist .powerDown,
    answers.update host .resume with
  | .idle, _, .ok () => true
  | .jobCompletion _, .ok (), .ok () => true
  | _, _, _ => false

/-- A node with a zone is submitted until it is not throttled, and its operation is polled until it
is done. A done operation with error items has failed for all of them. -/
def deletion (request : Request) (host : String) : Disposition :=
  match answers.settledOutcome host with
  | .failed message | .throttled message => .failed message
  | .accepted operation =>
    match answers.lastAnswer operation with
    | .error error => .failed ("compute error: " ++ error.message)
    | .ok final =>
      match final.faults with
      | none | some [] => .deleted (answers.comesBack request host)
      | some faults =>
        .failed ("operation " ++ final.name ++ " failed: " ++ reasonsOf faults)

/-- A node without an accelerator is deleted in the zone of its partition, or wherever an instance
of its name is listed in the region of its partition. -/
def batchedDeletion (request : Request) (host name : String) (partition : Partition) :
    Disposition :=
  if partition.regionalCapacity then
    match partition.region.or (partition.zone.map nameBeforeDash) with
    | none => .failed ("config error: " ++
        ("invalid config: instance_defs." ++ name ++ ": regional capacity requires a region"))
    | some region =>
      match answers.listing region name with
      | .error error =>
        .failed ("inventory lookup for partition " ++ name ++ " failed: " ++ error.message)
      | .ok listed =>
        if host ∈ listed.map Instance.name then answers.deletion request host else .absent
  else
    match partition.zone with
    | none => .failed ("config error: " ++
        ("invalid config: instance_defs." ++ name ++ ": zone is required"))
    | some _ => answers.deletion request host

/-- This function deletes one node alone. The partition of the node has the start of its name, and
its nodes are accelerators, or left to the end of their jobs if it is exclusive, or deleted in
batches. -/
def disposition (config : Config) (request : Request) (host : String) : Disposition :=
  let name := nameBeforeDash host
  match config.partitions.lookup name with
  | none => .failed ("no instance definition for partition: " ++ name)
  | some partition =>
    if partition.acceleratorType.getD "" ≠ "" then
      match partition.zone with
      | none => .failed "accelerator partition has no zone"
      | some zone =>
        match answers.accelerator host zone with
        | .ok () => .deleted (answers.comesBack request host)
        | .error detail => .failed ("accelerator delete of " ++ host ++ " failed: " ++ detail)
    else if request.trigger = .idle ∧ partition.exclusive then .skipped
    else answers.batchedDeletion request host name partition

/-- The configuration or the listing of its partition tells where a node is. -/
def placeOf (config : Config) (host : String) : Except Suspend.Error Location :=
  match Location.siteOf config host with
  | .fixed result => result
  | .listed region =>
    Location.inInventory (partitionOf host) host
      (Location.inventoryOf (answers.listing region (partitionOf host)))

theorem comesBack_eq (request : Request) (host : String) :
    answers.comesBack request host =
      (Scheduler.poweredDown (answers.update request.hostlist .powerDown) request.trigger &&
        (answers.update host .resume).isOk) := by
  unfold comesBack
  cases request.trigger <;> cases answers.update request.hostlist .powerDown <;>
    cases answers.update host .resume <;> rfl

/-- The last answer about its operation settles an accepted deletion. -/
theorem deletion_eq (request : Request) (host : String) :
    answers.deletion request host =
      match answers.settledOutcome host with
      | .failed message | .throttled message => .failed message
      | .accepted operation =>
        match concluded (answers.lastAnswer operation) with
        | .ok _ => .deleted (answers.comesBack request host)
        | .error error => .failed error.message := by
  unfold deletion
  cases answers.settledOutcome host with
  | failed message => rfl
  | throttled message => rfl
  | accepted operation =>
    dsimp only
    cases answers.lastAnswer operation with
    | error error => rfl
    | ok final =>
      dsimp only [concluded]
      rw [settled_eq]
      rcases final.faults with _ | _ | ⟨fault, faults⟩ <;> rfl

/-- The place of a node decides what becomes of it in a batch. -/
theorem batchedDeletion_eq {config : Config} {request : Request} {host : String}
    {partition : Partition}
    (found : config.partition (partitionOf host) = .ok partition) :
    answers.batchedDeletion request host (partitionOf host) partition =
      match answers.placeOf config host with
      | .ok (.inZone _) => answers.deletion request host
      | .ok .absent => .absent
      | .error error => .failed error.message := by
  have region : partition.effectiveRegion? =
      partition.region.or (partition.zone.map nameBeforeDash) := by
    rw [← funext beforeLastDash_eq]
    rfl
  unfold batchedDeletion placeOf Location.siteOf
  rw [found, ← region]
  dsimp only
  cases partition.regionalCapacity with
  | false => cases partition.zone <;> rfl
  | true =>
    cases partition.effectiveRegion? with
    | none => rfl
    | some region =>
      simp only [if_true]
      cases listed : answers.listing region (partitionOf host) with
      | error error => rfl
      | ok instances =>
        dsimp only
        by_cases inside : host ∈ instances.map Instance.name
        · obtain ⟨zone, place⟩ := Location.inInventory_of_mem (partitionOf host) inside
          rw [if_pos inside, place]
        · rw [if_neg inside, Location.inInventory_of_not_mem (partitionOf host) inside]

/-- The way of a node decides what becomes of it. -/
theorem disposition_eq (config : Config) (request : Request) (host : String) :
    answers.disposition config request host =
      match wayOf config host with
      | .unclassified reason => .failed reason
      | .accelerator zone =>
        match answers.accelerator host zone with
        | .ok () => .deleted (answers.comesBack request host)
        | .error detail => .failed (Suspend.Error.accelerator host detail).message
      | .standard =>
        if isSelected config request.trigger host then
          match answers.placeOf config host with
          | .ok (.inZone _) => answers.deletion request host
          | .ok .absent => .absent
          | .error error => .failed error.message
        else .skipped := by
  have name : nameBeforeDash host = partitionOf host := (beforeLastDash_eq host).symm
  have found := config.partitions.find?_eq_lookup (partitionOf host)
  unfold disposition wayOf
  rw [name]
  dsimp only
  cases known : config.partitions.lookup (partitionOf host) with
  | none =>
    rw [known] at found
    have looked : config.partition (partitionOf host) =
        .error (.unknownPartition (partitionOf host)) := by
      simp only [Config.partition, found]
    rw [looked]
    rfl
  | some partition =>
    rw [known] at found
    have looked : config.partition (partitionOf host) = .ok partition := by
      simp only [Config.partition, found]
    have accelerated : partition.isAccelerator =
        decide (partition.acceleratorType.getD "" ≠ "") := by
      unfold Partition.isAccelerator
      cases partition.acceleratorType with
      | none => rfl
      | some kind => simp [bne, beq_eq_decide]
    have selected : isSelected config request.trigger host =
        !decide (request.trigger = .idle ∧ partition.exclusive) := by
      unfold isSelected isExclusive
      rw [looked]
      cases request.trigger <;> simp [Trigger.isJob]
    rw [looked]
    dsimp only
    rw [accelerated, selected, answers.batchedDeletion_eq looked]
    by_cases special : partition.acceleratorType.getD "" = ""
    · by_cases left : request.trigger = .idle ∧ partition.exclusive
      · simp [special, left]
      · simp [special, left]
    · cases partition.zone <;> simp [special]
      rfl

end LocalAnswers

end Scaledown
