/-
This file shows that the name of a placement group tells the cluster and the job that it belongs to.
-/

import Scaledown.Proofs.Suspend.Groups

namespace Scaledown

theorem Event.group?_eq_some_iff {event : Event} {name : String} :
    event.group? = some name ↔ ∃ region answer, event = .deleteResourcePolicy region name answer := by
  cases event <;> simp [Event.group?]

namespace Placement

variable {cluster cluster' name : String} {job job' nodes nodes' limit limit' index index' : Nat}

theorem toList_groupName (cluster : String) (job index : Nat) :
    (groupName cluster job index).toList =
      (cluster.toList ++ '-' :: (Nat.repr job).toList) ++ '-' :: (Nat.repr index).toList := by
  simp [groupName]

theorem dash_not_mem_repr (number : Nat) : '-' ∉ (Nat.repr number).toList := by
  intro inside
  have digit := Text.isDigit_of_mem_repr inside
  revert digit
  decide

/-- Numbers hold no dash, so the last dash of a name stands before the index and the one before it
stands before the job, whatever the name of the cluster is. -/
theorem groupName_eq_iff :
    groupName cluster job index = groupName cluster' job' index' ↔
      cluster = cluster' ∧ job = job' ∧ index = index' := by
  constructor
  · intro same
    have texts := congrArg (fun text => Text.cutLast? '-' text.toList) same
    simp only [toList_groupName, Text.cutLast?_append_cons (dash_not_mem_repr _), Option.some.injEq,
      Prod.mk.injEq] at texts
    obtain ⟨fronts, indices⟩ := texts
    have cuts := congrArg (Text.cutLast? '-') fronts
    simp only [Text.cutLast?_append_cons (dash_not_mem_repr _), Option.some.injEq,
      Prod.mk.injEq] at cuts
    obtain ⟨clusters, jobs⟩ := cuts
    refine ⟨String.toList_injective clusters, ?_, ?_⟩
    · exact Text.repr_injective (String.toList_injective jobs)
    · exact Text.repr_injective (String.toList_injective indices)
  · rintro ⟨rfl, rfl, rfl⟩
    rfl

theorem groupName_of_getElem?_eq_some
    (found : (groupNames cluster job nodes limit)[index]? = some name) :
    name = groupName cluster job (index + 1) := by
  obtain ⟨inside, rfl⟩ := List.getElem?_eq_some_iff.1 found
  simp [groupNames]

/-- A job of the cluster has a group of this name, if it has enough nodes. -/
def IsGroupOf (cluster : String) (job : Nat) (name : String) : Prop :=
  ∃ nodes limit, name ∈ groupNames cluster job nodes limit

theorem IsGroupOf.exists_index (group : IsGroupOf cluster job name) :
    ∃ index, name = groupName cluster job index := by
  obtain ⟨nodes, limit, inside⟩ := group
  obtain ⟨index, -, rfl⟩ := List.mem_map.1 inside
  exact ⟨index + 1, rfl⟩

theorem IsGroupOf.unique (first : IsGroupOf cluster job name)
    (second : IsGroupOf cluster' job' name) : cluster = cluster' ∧ job = job' := by
  obtain ⟨index, rfl⟩ := first.exists_index
  obtain ⟨index', same⟩ := second.exists_index
  obtain ⟨clusters, jobs, -⟩ := groupName_eq_iff.1 same
  exact ⟨clusters, jobs⟩

end Placement

namespace Suspend

open Placement

/-- Only groups of the own job and the own cluster are deleted. -/
def DeletesOwnGroups (config : Config) (trigger : Trigger) (events : List Event) : Prop :=
  ∀ event ∈ events, ∀ name, event.group? = some name →
    ∃ job, trigger = .jobCompletion job ∧ IsGroupOf config.clusterName job name

theorem isGroupOf_of_groupsOf? {config : Config} {trigger : Trigger} {hostnames : List String}
    {region : String} {names : List String}
    (grouped : groupsOf? config trigger hostnames = some (region, names)) :
    ∃ job, trigger = .jobCompletion job ∧
      ∀ name ∈ names, IsGroupOf config.clusterName job name := by
  cases trigger with
  | idle => cases grouped
  | jobCompletion job =>
    simp only [groupsOf?, Option.bind_eq_bind, Option.bind_eq_some_iff] at grouped
    obtain ⟨_, same, first, -, partition, -, grouped⟩ := grouped
    obtain rfl := Option.some.inj same
    split at grouped
    · obtain ⟨_, -, same⟩ := Option.bind_eq_some_iff.1 grouped
      obtain ⟨-, rfl⟩ := Prod.mk.inj (Option.some.inj same)
      exact ⟨job, rfl, fun name inside => ⟨_, _, inside⟩⟩
    · cases grouped

theorem CleansGroups.deletesOwnGroups {config : Config} {trigger : Trigger}
    {hostnames : List String} {calls : List Event} {report : Placement.Report}
    (cleaned : CleansGroups config trigger hostnames calls report) :
    DeletesOwnGroups config trigger calls := by
  cases cleaned with
  | nothing => simp [DeletesOwnGroups]
  | @groups region deletions waits grouped awaited =>
    obtain ⟨job, same, own⟩ := isGroupOf_of_groupsOf? grouped
    intro event called name group
    rcases List.mem_append.1 called with asked | polled
    · obtain ⟨deletion, inside, rfl⟩ := List.mem_map.1 asked
      obtain rfl := Option.some.inj group
      exact ⟨job, same, own _ (List.mem_map_of_mem inside)⟩
    · obtain ⟨wait, -, polled⟩ := List.mem_flatMap.1 polled
      obtain ⟨poll, -, rfl⟩ := List.mem_map.1 polled
      cases group

theorem Ending.deletesOwnGroups {config : Config} {request : Request} {events : List Event}
    {result : Except Error Report} (ending : Ending config request events result) :
    DeletesOwnGroups config request.trigger events := by
  cases ending with
  | unconfigured => simp [DeletesOwnGroups]
  | unexpanded | epilog => simp [DeletesOwnGroups, Event.group?]
  | finished expanded unhandled stages =>
    intro event called name group
    rcases List.mem_cons.1 called with rfl | called
    · cases group
    · rw [stages.events_eq_nodeCalls_append] at called
      rcases List.mem_append.1 called with before | cleaning
      · rw [stages.group?_of_mem_nodeCalls event before] at group
        cases group
      · exact stages.cleaned.deletesOwnGroups event cleaning name group

variable {World : Type}

/-- The groups of a job have distinct names, and no two jobs or clusters share a name at any
number. So no run ever deletes a group of another job or of another cluster. -/
theorem group_name_tells_cluster_and_job (collaborators : Collaborators World) (config : Config)
    (request : Request) (world : World) :
    (∀ cluster job nodes limit, (groupNames cluster job nodes limit).Nodup) ∧
    (∀ cluster job nodes limit cluster' job' nodes' limit' (index index' : Nat) name,
      (groupNames cluster job nodes limit)[index]? = some name →
      (groupNames cluster' job' nodes' limit')[index']? = some name →
        cluster = cluster' ∧ job = job' ∧ index = index') ∧
    HoldsThroughout collaborators config request world fun events _ =>
      ∀ region name answer, .deleteResourcePolicy region name answer ∈ events →
        ∀ cluster job nodes limit, name ∈ groupNames cluster job nodes limit →
          cluster = config.clusterName ∧ request.trigger = .jobCompletion job := by
  refine ⟨fun cluster job nodes limit => nodup_groupNames cluster job nodes limit, ?_, ?_⟩
  · intro cluster job nodes limit cluster' job' nodes' limit' index index' name first second
    rw [groupName_of_getElem?_eq_some first] at second
    have same := groupName_of_getElem?_eq_some second
    obtain ⟨clusters, jobs, numbers⟩ := groupName_eq_iff.1 same
    exact ⟨clusters, jobs, Nat.succ.inj numbers⟩
  · apply HoldsThroughout.of_ending
    intro events result ending region name answer called cluster job nodes limit inside
    obtain ⟨own, triggered, group⟩ := ending.deletesOwnGroups _ called name rfl
    obtain ⟨rfl, rfl⟩ := IsGroupOf.unique ⟨nodes, limit, inside⟩ group
    exact ⟨rfl, triggered⟩

/-- The groups of the job 7 are no groups of the job 1 on a cluster with the name `cluster-7`. -/
theorem group_name_tells_cluster_and_job_pairedWorld :
    ∃ report last, run Simulation.collaborators pairedPartition 5 ⟨"nodes", .jobCompletion 7⟩
        (.start pairedWorld) = some (.ok report, last) ∧
      last.events.filterMap Event.group? = ["cluster-7-1", "cluster-7-2", "cluster-7-3"] ∧
      ∀ name ∈ last.events.filterMap Event.group?,
        ∀ nodes limit, name ∉ groupNames "cluster-7" 1 nodes limit := by
  have read : readRun? (fun _ events => events.filterMap Event.group?)
      (run Simulation.collaborators pairedPartition 5 ⟨"nodes", .jobCompletion 7⟩
        (.start pairedWorld)) = some ["cluster-7-1", "cluster-7-2", "cluster-7-3"] := by
    decide +kernel
  obtain ⟨report, last, done, groups⟩ := exists_of_readRun? read
  obtain ⟨-, -, own⟩ := group_name_tells_cluster_and_job Simulation.collaborators pairedPartition
    ⟨"nodes", .jobCompletion 7⟩ pairedWorld
  refine ⟨report, last, done, groups, fun name deleted nodes limit inside => ?_⟩
  obtain ⟨event, called, group⟩ := List.mem_filterMap.1 deleted
  obtain ⟨region, answer, rfl⟩ := Event.group?_eq_some_iff.1 group
  obtain ⟨clusters, -⟩ := own.ended 5 _ last done region name answer called _ _ nodes limit inside
  exact absurd clusters (by decide)

end Suspend

end Scaledown
