/-
This file shows that a run for a job deletes exactly the placement groups of this job.
-/

import Scaledown.Proofs.Suspend.Placement

namespace Scaledown

/-- A placed partition has a region, its own or the one of its zone. -/
theorem Partition.IsPlaced.exists_effectiveRegion {partition : Partition}
    (placed : partition.IsPlaced) : ∃ region, partition.effectiveRegion? = some region := by
  unfold IsPlaced at placed
  split at placed
  · exact Option.isSome_iff_exists.1 placed
  · obtain ⟨zone, found⟩ := Option.isSome_iff_exists.1 placed
    cases configured : partition.region <;> simp [effectiveRegion?, configured, found]

namespace Placement

theorem needsCleanup_iff {config : Config} {partition : Partition} {job nodes : Nat} :
    needsCleanup (.jobCompletion job) config partition nodes = true ↔
      partition.enablePlacement = true ∧
        (∃ family ∈ config.suspend.placementFamilies, partition.machineFamily? = some family) ∧
          1 < nodes := by
  simp only [needsCleanup, Trigger.isJob, Config.placementEnabled, Bool.true_and,
    Bool.and_eq_true, decide_eq_true_eq, and_assoc]
  cases partition.machineFamily? <;> simp

end Placement

namespace Suspend

open Compute Placement

/-- The nodes of a job are placed in groups when there are several of them and the partition of
the first one asks for groups of its machine family. -/
structure HasGroups (config : Config) (hosts : List String) (partition : Partition) : Prop where
  known : ∃ first, hosts.head? = some first ∧
    config.partition (partitionOf first) = .ok partition
  enabled : partition.enablePlacement = true
  listed : ∃ family ∈ config.suspend.placementFamilies, partition.machineFamily? = some family
  several : 1 < hosts.toFinset.card

theorem HasGroups.unique {config : Config} {hosts : List String} {one other : Partition}
    (first : HasGroups config hosts one) (second : HasGroups config hosts other) :
    one = other := by
  obtain ⟨host, head, found⟩ := first.known
  obtain ⟨host', head', found'⟩ := second.known
  obtain rfl := Option.some.inj (head.symm.trans head')
  exact Except.ok.inj (found.symm.trans found')

/-- The groups of a job are numbered from one, and they are as few as can hold its nodes. -/
def jobGroups (config : Config) (job : Nat) (hosts : List String) : List String :=
  (List.range (hosts.toFinset.card ⌈/⌉ config.suspend.placementMaxMembers)).map fun index =>
    config.clusterName ++ "-" ++ Nat.repr job ++ "-" ++ Nat.repr (index + 1)

theorem groupNames_eq_jobGroups (config : Config) (job : Nat) (expanded : List String) :
    groupNames config.clusterName job (distinct expanded).length
      config.suspend.placementMaxMembers = jobGroups config job expanded := by
  rw [groupNames, groupCount_eq_ceilDiv, length_distinct]
  rfl

theorem head?_distinct (hosts : List String) : (distinct hosts).head? = hosts.head? := by
  cases hosts <;> rfl

/-- A job has groups to clean up when it has groups and their region is known. -/
theorem groupsOf?_eq_some_iff {config : Config} {job : Nat} {expanded : List String}
    {region : String} {names : List String} :
    groupsOf? config (.jobCompletion job) (distinct expanded) = some (region, names) ↔
      ∃ partition, HasGroups config expanded partition ∧
        partition.effectiveRegion? = some region ∧ names = jobGroups config job expanded := by
  simp only [groupsOf?, Trigger.job?, head?_distinct, groupNames_eq_jobGroups,
    Option.bind_eq_bind, Option.bind_some, Option.bind_eq_some_iff]
  constructor
  · rintro ⟨first, head, partition, found, cleaned⟩
    split at cleaned
    · rename_i needed
      obtain ⟨enabled, listed, several⟩ := needsCleanup_iff.1 needed
      obtain ⟨_, placed, same⟩ := Option.bind_eq_some_iff.1 cleaned
      obtain ⟨rfl, rfl⟩ := Prod.mk.inj (Option.some.inj same)
      rw [length_distinct] at several
      have known : config.partition (partitionOf first) = .ok partition := by
        cases answer : config.partition (partitionOf first) <;> simp_all [Except.toOption]
      exact ⟨partition, ⟨⟨first, head, known⟩, enabled, listed, several⟩, placed, rfl⟩
    · cases cleaned
  · rintro ⟨partition, ⟨⟨first, head, known⟩, enabled, listed, several⟩, placed, rfl⟩
    rw [← length_distinct] at several
    refine ⟨first, head, partition, by simp [known, Except.toOption], ?_⟩
    rw [if_pos (needsCleanup_iff.2 ⟨enabled, listed, several⟩), placed]
    rfl

/-- Each of the groups is deleted once and in order before the accepted operations are waited for
in order, and it is reported as deleted when both went well and as failed otherwise. -/
structure DeletesGroups (region : String) (names : List String) (calls : List Event)
    (report : Report) (deletions : List GroupDeletion) (waits : List GroupWait) : Prop where
  calls : calls = deletions.map (GroupDeletion.event region) ++ waits.flatMap GroupWait.events
  named : deletions.map GroupDeletion.name = names
  once : names.Nodup
  awaited : waits.map GroupWait.request = deletions.filterMap GroupDeletion.accepted?
  divided : (report.placementDeleted ++ report.placementFailed.keys).Perm names
  deleted_iff : ∀ name, name ∈ report.placementDeleted ↔
    ∃ operation final, ⟨name, .ok operation⟩ ∈ deletions ∧
      ∃ wait ∈ waits, wait.request = (name, operation) ∧ wait.result = .ok final

/-- A job without groups has none deleted, and otherwise all groups of the job are deleted in the
region of its first node after all other calls. -/
structure DeletesJobGroups (config : Config) (job : Nat) (hosts : List String)
    (events : List Event) (report : Report) : Prop where
  ungrouped : (∀ partition, ¬HasGroups config hosts partition) →
    (∀ event ∈ events, event.group? = none) ∧ report.placementDeleted = [] ∧
      report.placementFailed = []
  grouped : ∀ partition, HasGroups config hosts partition →
    ∃ region former calls deletions waits, partition.effectiveRegion? = some region ∧
      events = former ++ calls ∧ (∀ event ∈ former, event.group? = none) ∧
      DeletesGroups region (jobGroups config job hosts) calls report deletions waits

/-- A group is deleted when its deletion is accepted and its operation succeeds. -/
theorem mem_deleted_iff {deletions : List GroupDeletion} {waits : List GroupWait}
    (awaited : waits.map GroupWait.request = deletions.filterMap GroupDeletion.accepted?)
    (name : String) : name ∈ waits.filterMap GroupWait.deleted? ↔
      ∃ operation final, ⟨name, .ok operation⟩ ∈ deletions ∧
        ∃ wait ∈ waits, wait.request = (name, operation) ∧ wait.result = .ok final := by
  rw [List.mem_filterMap]
  constructor
  · rintro ⟨wait, inside, deleted⟩
    obtain ⟨rfl, final, ended⟩ := GroupWait.deleted?_eq_some.1 deleted
    have asked : wait.request ∈ deletions.filterMap GroupDeletion.accepted? :=
      awaited ▸ List.mem_map_of_mem inside
    obtain ⟨⟨other, answer⟩, called, accepted⟩ := List.mem_filterMap.1 asked
    obtain ⟨rfl, rfl⟩ := GroupDeletion.accepted?_eq_some.1 accepted
    exact ⟨wait.operation, final, called, wait, inside, rfl, ended⟩
  · rintro ⟨operation, final, -, wait, inside, same, ended⟩
    obtain ⟨rfl, -⟩ := Prod.mk.inj same
    exact ⟨wait, inside, GroupWait.deleted?_eq_some.2 ⟨rfl, final, ended⟩⟩

theorem CleansGroups.deletesJobGroups {config : Config} {job : Nat} {expanded : List String}
    {former calls : List Event} {placement : Placement.Report} {report : Report}
    (valid : config.IsValid)
    (cleaned : CleansGroups config (.jobCompletion job) (distinct expanded) calls placement)
    (quiet : ∀ event ∈ former, event.group? = none)
    (deleted : report.placementDeleted = placement.deleted)
    (failed : report.placementFailed = placement.failed) :
    DeletesJobGroups config job expanded (former ++ calls) report := by
  cases cleaned with
  | nothing none =>
    refine ⟨fun _ => ⟨by simpa using quiet, deleted, failed⟩, fun partition has => ?_⟩
    obtain ⟨first, head, known⟩ := has.known
    obtain ⟨region, placed⟩ := (valid.isPlaced known).exists_effectiveRegion
    rw [groupsOf?_eq_some_iff.2 ⟨partition, has, placed, rfl⟩] at none
    cases none
  | @groups region deletions waits grouped awaited =>
    have once := nodup_of_groupsOf? grouped
    obtain ⟨partition, has, placed, named⟩ := groupsOf?_eq_some_iff.1 grouped
    refine ⟨fun without => absurd has (without partition), fun other same => ?_⟩
    obtain rfl := has.unique same
    refine ⟨region, former, _, deletions, waits, placed, rfl, quiet, rfl, named, named ▸ once,
      awaited, ?_, fun name => ?_⟩
    · rw [deleted, failed, ← named]
      exact Report.divide awaited
    · rw [deleted]
      exact mem_deleted_iff awaited name

variable {World : Type}

/-- A group of this partition holds two nodes. -/
def pairedPartition : Config :=
  { groupedPartition with suspend := { SuspendSettings.standard with placementMaxMembers := 2 } }

/-- The deletion of the first group is refused, and the operation of the second one fails. -/
def pairedWorld : Simulation.World where
  provider := ⟨[], [],
    [("op-cluster-7-2", [.updated .done (some [⟨some "IN_USE", some "still used"⟩])])], [],
    [("cluster-7-1", [.error (.rejected 403 "denied")])]⟩
  scheduler := ⟨some ["own-0", "own-1", "own-0", "own-2", "own-3", "own-4"], none, []⟩
  accelerator := []

end Suspend

end Scaledown
