/-
This file describes the deletion of placement groups by its calls.
-/

import Mathlib.Algebra.Order.Floor.Div
import Scaledown.Placement.Cleanup
import Scaledown.Proofs.Text.Decimal
import Scaledown.Proofs.Waiting

namespace Scaledown.Placement

open Compute Waiting

/-- The placement groups are deleted and their operations are polled. -/
def IsGroupCall : Event → Prop
  | .deleteResourcePolicy _ _ _ => True
  | .waitOperation _ _ => True
  | _ => False

section Names

variable (cluster : String) (job nodes limit : Nat)

/-- The groups are as few as can hold the nodes. -/
theorem groupCount_eq_ceilDiv : groupCount nodes limit = nodes ⌈/⌉ limit := by
  unfold groupCount
  split
  · rename_i empty
    rw [empty, ceilDiv_zero]
  · rw [Nat.ceilDiv_eq_add_pred_div]

theorem groupName_injective : Function.Injective (groupName cluster job) := by
  intro one other same
  have written : Nat.repr one = Nat.repr other :=
    String.append_right_inj _ |>.1 same
  exact Text.repr_injective written

theorem nodup_groupNames : (groupNames cluster job nodes limit).Nodup := by
  have indexed : Function.Injective fun index => groupName cluster job (index + 1) :=
    (groupName_injective cluster job).comp Nat.succ_injective
  exact List.nodup_range.map indexed

end Names

/-- A deletion is the name of a group with the answer of the provider. -/
structure GroupDeletion where
  name : String
  answer : Except Compute.Error Operation

namespace GroupDeletion

def event (region : String) (deletion : GroupDeletion) : Event :=
  .deleteResourcePolicy region deletion.name deletion.answer

def accepted? (deletion : GroupDeletion) : Option (String × Operation) :=
  match deletion.answer with
  | .ok operation => some (deletion.name, operation)
  | .error _ => none

def refused? (deletion : GroupDeletion) : Option (String × String) :=
  match deletion.answer with
  | .ok _ => none
  | .error error => some (deletion.name, error.message)

theorem accepted?_eq_some {deletion : GroupDeletion} {entry : String × Operation} :
    deletion.accepted? = some entry ↔
      deletion.name = entry.1 ∧ deletion.answer = .ok entry.2 := by
  unfold accepted?
  cases deletion.answer <;> simp [Prod.ext_iff]

end GroupDeletion

/-- An accepted deletion of a group is polled until it ends. -/
structure GroupWait where
  name : String
  operation : Operation
  polls : List Poll
  result : Except Suspend.Error Operation
  polled : Polled operation polls result

namespace GroupWait

def request (wait : GroupWait) : String × Operation :=
  (wait.name, wait.operation)

def events (wait : GroupWait) : List Event :=
  wait.polls.map Poll.event

def deleted? (wait : GroupWait) : Option String :=
  match wait.result with
  | .ok _ => some wait.name
  | .error _ => none

def failed? (wait : GroupWait) : Option (String × String) :=
  match wait.result with
  | .ok _ => none
  | .error error => some (wait.name, error.message)

theorem deleted?_eq_some {wait : GroupWait} {name : String} :
    wait.deleted? = some name ↔ wait.name = name ∧ ∃ final, wait.result = .ok final := by
  unfold deleted?
  cases wait.result <;> simp

end GroupWait

/-- The report joins the refused deletions and the ends of the accepted ones. -/
def Report.ofGroups (deletions : List GroupDeletion) (waits : List GroupWait) : Report where
  deleted := waits.filterMap GroupWait.deleted?
  failed := deletions.filterMap GroupDeletion.refused? ++ waits.filterMap GroupWait.failed?

/-- Every group is deleted or fails, at once or at the end of its operation. -/
theorem Report.divide {deletions : List GroupDeletion} {waits : List GroupWait}
    (awaited : waits.map GroupWait.request = deletions.filterMap GroupDeletion.accepted?) :
    ((ofGroups deletions waits).deleted ++ (ofGroups deletions waits).failed.keys).Perm
      (deletions.map GroupDeletion.name) := by
  have asked := filterMap_divide_perm GroupDeletion.name
    (fun deletion => deletion.accepted?.map Prod.fst)
    (fun deletion => deletion.refused?.map Prod.fst) (fun _ => none) deletions (by
      intro deletion _
      cases answered : deletion.answer <;>
        simp [GroupDeletion.accepted?, GroupDeletion.refused?, answered])
  have ended := filterMap_divide_perm GroupWait.name GroupWait.deleted?
    (fun wait => wait.failed?.map Prod.fst) (fun _ => none) waits (by
      intro wait _
      cases result : wait.result <;> simp [GroupWait.deleted?, GroupWait.failed?, result])
  have same : waits.map GroupWait.name =
      deletions.filterMap fun deletion => deletion.accepted?.map Prod.fst := by
    rw [← List.map_filterMap, ← awaited, List.map_map]
    rfl
  rw [List.perm_iff_count] at asked ended ⊢
  intro name
  have one := asked name
  have two := ended name
  rw [same] at two
  simp only [ofGroups, Table.keys, List.map_append, List.map_filterMap, List.count_append,
    List.filterMap_none, List.count_nil, Nat.add_zero] at one two ⊢
  omega

variable {World : Type} {collaborators : Collaborators World} {session last : Session World}

/-- The groups are deleted by one call each in their order. -/
theorem deleteGroups_performs {region : String} {names : List String} {report next : Report}
    {pending : List (String × Operation)}
    (done : deleteGroups collaborators region names report session =
      some ((pending, next), last)) :
    ∃ deletions : List GroupDeletion, deletions.map GroupDeletion.name = names ∧
      Performs collaborators session (deletions.map (GroupDeletion.event region)) last ∧
      pending = deletions.filterMap GroupDeletion.accepted? ∧
      next = { report with
        failed := report.failed.putAll (deletions.filterMap GroupDeletion.refused?) } := by
  induction names generalizing report pending session with
  | nil =>
    obtain ⟨rfl, rfl, rfl⟩ := Step.pure_pair_eq_some.1 done
    exact ⟨[], rfl, .nothing _, rfl, rfl⟩
  | cons name names ih =>
    simp only [deleteGroups, Step.bind_eq_some] at done
    obtain ⟨answer, middle, asked, done⟩ := done
    have called := Collaborators.deleteResourcePolicy_performs asked
    cases answer with
    | ok operation =>
      obtain ⟨⟨others, final⟩, reached, rest, ended⟩ := Step.bind_eq_some.1 done
      obtain ⟨rfl, rfl, rfl⟩ := Step.pure_pair_eq_some.1 ended
      obtain ⟨deletions, rfl, performed, rfl, rfl⟩ := ih rest
      exact ⟨⟨name, .ok operation⟩ :: deletions, rfl, called.trans performed, rfl, rfl⟩
    | error error =>
      obtain ⟨deletions, rfl, performed, rfl, rfl⟩ := ih done
      exact ⟨⟨name, .error error⟩ :: deletions, rfl, called.trans performed, rfl, rfl⟩

/-- The accepted deletions are waited for in turn. -/
theorem confirmGroups_performs {interval : Duration} {patience : Nat}
    {pending : List (String × Operation)} {report result : Report}
    (done : confirmGroups collaborators interval patience pending report session =
      some (result, last)) :
    ∃ waits : List GroupWait, waits.map GroupWait.request = pending ∧
      Performs collaborators session (waits.flatMap GroupWait.events) last ∧
      result = ⟨report.deleted ++ waits.filterMap GroupWait.deleted?,
        report.failed.putAll (waits.filterMap GroupWait.failed?)⟩ := by
  induction pending generalizing report session with
  | nil =>
    obtain ⟨rfl, rfl⟩ := Step.pure_eq_some.1 done
    exact ⟨[], rfl, .nothing _, by simp [Table.putAll]⟩
  | cons group pending ih =>
    obtain ⟨name, operation⟩ := group
    simp only [confirmGroups, Step.bind_eq_some] at done
    obtain ⟨ended, middle, waited, done⟩ := done
    obtain ⟨polls, polled, called⟩ := Waiting.wait_performs waited
    let wait : GroupWait := ⟨name, operation, polls, ended, polled⟩
    cases ended with
    | ok final =>
      obtain ⟨waits, rfl, performed, rfl⟩ := ih done
      refine ⟨wait :: waits, rfl, called.trans performed, ?_⟩
      rw [List.append_assoc]
      rfl
    | error error =>
      obtain ⟨waits, rfl, performed, rfl⟩ := ih done
      exact ⟨wait :: waits, rfl, called.trans performed, rfl⟩

/-- A cleanup asks for the deletion of all groups before it waits for those that are accepted. -/
theorem cleanup_performs {interval : Duration} {patience : Nat} {region : String}
    {names : List String} {result : Report} (distinct : names.Nodup)
    (done : cleanup collaborators interval patience region names session =
      some (result, last)) :
    ∃ (deletions : List GroupDeletion) (waits : List GroupWait),
      deletions.map GroupDeletion.name = names ∧
      waits.map GroupWait.request = deletions.filterMap GroupDeletion.accepted? ∧
      Performs collaborators session
        (deletions.map (GroupDeletion.event region) ++ waits.flatMap GroupWait.events) last ∧
      result = .ofGroups deletions waits := by
  obtain ⟨⟨pending, report⟩, middle, deleted, confirmed⟩ := Step.bind_eq_some.1 done
  obtain ⟨deletions, rfl, asked, rfl, rfl⟩ := deleteGroups_performs deleted
  obtain ⟨waits, awaited, waited, rfl⟩ := confirmGroups_performs confirmed
  refine ⟨deletions, waits, rfl, awaited, asked.trans waited, ?_⟩
  let refusals : Table String := deletions.filterMap GroupDeletion.refused?
  let failures : Table String := waits.filterMap GroupWait.failed?
  have fresh : (refusals.keys ++ failures.keys).Nodup := by
    rw [← Table.keys_append]
    exact (List.nodup_append.1 ((Report.divide awaited).nodup_iff.2 distinct)).2.1
  have refused : Table.putAll [] refusals = refusals :=
    Table.putAll_eq_append (List.nodup_append.1 fresh).1
  have failed : refusals.putAll failures = refusals ++ failures := Table.putAll_eq_append fresh
  change Report.mk _ (Table.putAll (Table.putAll [] refusals) failures) = _
  rw [refused, failed]
  rfl

/-- The calls of a cleanup are about groups. -/
theorem isGroupCall_of_mem {region : String} {deletions : List GroupDeletion}
    {waits : List GroupWait} : ∀ event ∈ deletions.map (GroupDeletion.event region) ++
      waits.flatMap GroupWait.events, IsGroupCall event := by
  intro event inside
  rcases List.mem_append.1 inside with asked | polled
  · obtain ⟨deletion, -, rfl⟩ := List.mem_map.1 asked
    trivial
  · obtain ⟨wait, -, polled⟩ := List.mem_flatMap.1 polled
    obtain ⟨poll, -, rfl⟩ := List.mem_map.1 polled
    trivial

end Scaledown.Placement
