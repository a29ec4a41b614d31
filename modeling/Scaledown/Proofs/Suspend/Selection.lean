/-
This file describes which way each node of a run goes.
-/

import Scaledown.Deletion.Selection
import Scaledown.Proofs.Location
import Scaledown.Suspend.Run

namespace Scaledown.Suspend

open Compute

theorem mem_distinct (hosts : List String) (host : String) :
    host ∈ distinct hosts ↔ host ∈ hosts := by
  induction hosts with
  | nil => rfl
  | cons first hosts ih =>
    by_cases same : host = first
    · simp [distinct, same]
    · simp [distinct, same, ih]

theorem nodup_distinct (hosts : List String) : (distinct hosts).Nodup := by
  induction hosts with
  | nil => exact List.nodup_nil
  | cons first hosts ih =>
    refine List.nodup_cons.2 ⟨?_, ih.filter _⟩
    simp

/-- The number of distinct hosts is the size of their set. -/
theorem length_distinct (hosts : List String) :
    (distinct hosts).length = hosts.toFinset.card := by
  rw [← List.toFinset_card_of_nodup (nodup_distinct hosts)]
  congr 1
  ext host
  simp [mem_distinct]

/-- A node goes down the accelerator path or the batched path, or it is not classified. -/
inductive Way where
  | accelerator (zone : String)
  | standard
  | unclassified (reason : String)

/-- The configuration of its partition decides which way a node goes. -/
def wayOf (config : Config) (hostname : String) : Way :=
  match config.partition (partitionOf hostname) with
  | .error error => .unclassified error.message
  | .ok partition =>
    if partition.isAccelerator then
      match partition.zone with
      | some zone => .accelerator zone
      | none => .unclassified "accelerator partition has no zone"
    else .standard

def accelerator? (config : Config) (hostname : String) : Option (String × String) :=
  match wayOf config hostname with
  | .accelerator zone => some (hostname, zone)
  | _ => none

def standard? (config : Config) (hostname : String) : Option String :=
  match wayOf config hostname with
  | .standard => some hostname
  | _ => none

def unclassified? (config : Config) (hostname : String) : Option (String × String) :=
  match wayOf config hostname with
  | .unclassified reason => some (hostname, reason)
  | _ => none

theorem wayOf_eq_accelerator_iff {config : Config} {host : String} {partition : Partition}
    (found : config.partition (partitionOf host) = .ok partition) (zone : String) :
    wayOf config host = .accelerator zone ↔
      partition.isAccelerator = true ∧ partition.zone = some zone := by
  unfold wayOf
  rw [found]
  dsimp only
  cases partition.isAccelerator <;> cases partition.zone <;> simp

theorem wayOf_eq_standard_iff {config : Config} {host : String} {partition : Partition}
    (found : config.partition (partitionOf host) = .ok partition) :
    wayOf config host = .standard ↔ partition.isAccelerator = false := by
  unfold wayOf
  rw [found]
  dsimp only
  cases partition.isAccelerator <;> cases partition.zone <;> simp

/-- Every node goes exactly one way. -/
theorem ways_divide (config : Config) (hostnames : List String) :
    ((hostnames.filterMap (accelerator? config)).map Prod.fst ++
      hostnames.filterMap (standard? config) ++
      (hostnames.filterMap (unclassified? config)).map Prod.fst).Perm hostnames := by
  have divided := filterMap_divide_perm id
    (fun hostname => (accelerator? config hostname).map Prod.fst) (standard? config)
    (fun hostname => (unclassified? config hostname).map Prod.fst) hostnames (by
      intro hostname _
      cases way : wayOf config hostname <;>
        simp [accelerator?, standard?, unclassified?, way])
  simpa [List.map_filterMap] using divided

/-- Distinct nodes stay distinct on their ways, and the ways have no node in common. -/
theorem ways_hosts (config : Config) {hostnames : List String} (distinct : hostnames.Nodup) :
    ((hostnames.filterMap (accelerator? config)).map Prod.fst).Nodup ∧
      (hostnames.filterMap (standard? config)).Nodup ∧
      (hostnames.filterMap (accelerator? config)).map Prod.fst ⊆ hostnames ∧
      hostnames.filterMap (standard? config) ⊆ hostnames ∧
      ∀ host ∈ (hostnames.filterMap (accelerator? config)).map Prod.fst,
        host ∉ hostnames.filterMap (standard? config) := by
  have divided := ways_divide config hostnames
  have apart := List.nodup_append.1 (List.nodup_append.1 (divided.nodup_iff.2 distinct)).1
  refine ⟨apart.1, apart.2.1, fun _ inside => divided.subset ?_, fun _ inside =>
    divided.subset ?_, fun host one two => apart.2.2 host one host two rfl⟩
  · exact List.mem_append_left _ (List.mem_append_left _ inside)
  · exact List.mem_append_left _ (List.mem_append_right _ inside)

namespace Classes

/-- The nodes are kept apart by their ways, in order. -/
def ofHostnames (config : Config) (hostnames : List String) : Classes where
  accelerators := hostnames.filterMap (accelerator? config)
  standard := hostnames.filterMap (standard? config)
  failed := hostnames.filterMap (unclassified? config)

theorem add_eq (config : Config) (classes : Classes) (hostname : String) :
    classes.add config hostname =
      ⟨classes.accelerators ++ (accelerator? config hostname).toList,
        classes.standard ++ (standard? config hostname).toList,
        classes.failed.putAll (unclassified? config hostname).toList⟩ := by
  unfold add accelerator? standard? unclassified? wayOf
  cases config.partition (partitionOf hostname) with
  | error error => simp [Table.putAll]
  | ok partition =>
    dsimp only
    cases partition.isAccelerator with
    | true => cases partition.zone <;> simp [Table.putAll]
    | false => simp [Table.putAll]

theorem add_ofHostnames (config : Config) (earlier : List String) (hostname : String)
    (distinct : (earlier ++ [hostname]).Nodup) :
    (ofHostnames config earlier).add config hostname =
      ofHostnames config (earlier ++ [hostname]) := by
  have divided := ways_divide config (earlier ++ [hostname])
  have fresh := (List.sublist_append_right _ _).nodup (divided.nodup_iff.2 distinct)
  have failed := Table.putAll_filterMap_concat (unclassified? config) earlier hostname fresh
  simp only [add_eq, ofHostnames, failed]
  simp [List.filterMap_eq_flatMap_toList]

end Classes

/-- Distinct nodes are classified by their own ways. -/
theorem classify_eq (config : Config) {hostnames : List String} (distinct : hostnames.Nodup) :
    classify config hostnames = .ofHostnames config hostnames := by
  have general : ∀ rest earlier : List String, (earlier ++ rest).Nodup →
      rest.foldl (Classes.add config) (.ofHostnames config earlier) =
        .ofHostnames config (earlier ++ rest) := by
    intro rest
    induction rest with
    | nil => simp
    | cons hostname rest ih =>
      intro earlier fresh
      rw [List.append_cons] at fresh ⊢
      rw [List.foldl_cons, Classes.add_ofHostnames config earlier hostname
        ((List.sublist_append_left _ _).nodup fresh)]
      exact ih (earlier ++ [hostname]) fresh
  exact general hostnames [] distinct

/-- The selected nodes and the others keep their order. -/
theorem select_eq (config : Config) (trigger : Trigger) (hostnames : List String) :
    Deletion.select config trigger hostnames =
      (hostnames.filter (Deletion.isSelected config trigger),
        hostnames.filter fun hostname => !Deletion.isSelected config trigger hostname) := by
  rw [Deletion.select, List.partition_eq_filter_filter]
  rfl

end Scaledown.Suspend
