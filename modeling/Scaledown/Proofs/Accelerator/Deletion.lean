/-
This file describes the accelerator path by its calls.
-/

import Scaledown.Accelerator.Deletion
import Scaledown.Proofs.Session.Trace
import Scaledown.Proofs.Table

namespace Scaledown.Accelerator

/-- A removal is an accelerator node with the answer to its deletion. -/
structure Removal where
  hostname : String
  zone : String
  answer : Except String Unit

namespace Removal

def node (removal : Removal) : String × String :=
  (removal.hostname, removal.zone)

def event (removal : Removal) : Event :=
  .deleteAccelerator removal.hostname removal.zone removal.answer

def deleted? (removal : Removal) : Option String :=
  match removal.answer with
  | .ok () => some removal.hostname
  | .error _ => none

def failed? (removal : Removal) : Option (String × String) :=
  match removal.answer with
  | .ok () => none
  | .error detail =>
    some (removal.hostname, (Suspend.Error.accelerator removal.hostname detail).message)

theorem deleted?_eq_some {removal : Removal} {hostname : String} :
    removal.deleted? = some hostname ↔
      removal.hostname = hostname ∧ removal.answer = .ok () := by
  unfold deleted?
  cases removal.answer <;> simp

theorem failed?_eq_some {removal : Removal} {entry : String × String} :
    removal.failed? = some entry ↔ ∃ detail, removal.answer = .error detail ∧
      (removal.hostname, (Suspend.Error.accelerator removal.hostname detail).message) = entry := by
  unfold failed?
  cases removal.answer <;> simp

end Removal

/-- The report joins the answers of all removals. -/
def Report.ofRemovals (removals : List Removal) : Report where
  deleted := removals.filterMap Removal.deleted?
  failed := removals.filterMap Removal.failed?

/-- Every removal succeeds or fails. -/
theorem removals_divide (removals : List Removal) :
    (removals.filterMap Removal.deleted? ++
      (removals.filterMap Removal.failed?).map Prod.fst).Perm
        (removals.map Removal.hostname) := by
  have divided := filterMap_divide_perm Removal.hostname Removal.deleted?
    (fun removal => removal.failed?.map Prod.fst) (fun _ => none) removals (by
      intro removal _
      cases ended : removal.answer <;>
        simp [Removal.deleted?, Removal.failed?, ended])
  simpa [List.map_filterMap] using divided

/-- The deleted hosts are distinct hosts of the nodes. -/
theorem deleted_hosts {removals : List Removal} {nodes : List (String × String)}
    (removed : removals.map Removal.node = nodes) (distinct : (nodes.map Prod.fst).Nodup) :
    (removals.filterMap Removal.deleted?).Nodup ∧
      removals.filterMap Removal.deleted? ⊆ nodes.map Prod.fst := by
  have hosts : removals.map Removal.hostname = nodes.map Prod.fst := by
    rw [← removed, List.map_map]
    rfl
  have divided := removals_divide removals
  rw [hosts] at divided
  exact ⟨(List.nodup_append.1 (divided.nodup_iff.2 distinct)).1,
    fun host inside => divided.subset (List.mem_append_left _ inside)⟩

theorem Report.ofRemovals_concat (earlier : List Removal) (removal : Removal)
    (distinct : ((earlier ++ [removal]).map Removal.hostname).Nodup) :
    ofRemovals (earlier ++ [removal]) =
      ⟨(ofRemovals earlier).deleted ++ removal.deleted?.toList,
        (ofRemovals earlier).failed.putAll removal.failed?.toList⟩ := by
  have divided := removals_divide (earlier ++ [removal])
  have fresh := (List.sublist_append_right _ _).nodup (divided.nodup_iff.2 distinct)
  have failed := Table.putAll_filterMap_concat Removal.failed? earlier removal fresh
  simp only [ofRemovals, failed]
  simp [List.filterMap_eq_flatMap_toList]

variable {World : Type} {collaborators : Collaborators World} {session last : Session World}

/-- The nodes are deleted by one call each in their order. -/
theorem deleteAll_performs (earlier : List Removal) {nodes : List (String × String)}
    {report : Report}
    (distinct : (earlier.map Removal.hostname ++ nodes.map Prod.fst).Nodup)
    (done : deleteAll collaborators nodes (.ofRemovals earlier) session = some (report, last)) :
    ∃ removals : List Removal, removals.map Removal.node = nodes ∧
      Performs collaborators session (removals.map Removal.event) last ∧
      report = .ofRemovals (earlier ++ removals) := by
  induction nodes generalizing earlier session with
  | nil =>
    obtain ⟨rfl, rfl⟩ := Step.pure_eq_some.1 done
    exact ⟨[], rfl, .nothing _, by simp⟩
  | cons node nodes ih =>
    obtain ⟨hostname, zone⟩ := node
    simp only [deleteAll, Step.bind_eq_some] at done
    obtain ⟨answer, middle, asked, done⟩ := done
    let removal : Removal := ⟨hostname, zone, answer⟩
    have next : ((earlier ++ [removal]).map Removal.hostname ++ nodes.map Prod.fst).Nodup := by
      simpa [removal] using distinct
    have joined := Report.ofRemovals_concat earlier removal
      ((List.sublist_append_left _ _).nodup next)
    have rest : deleteAll collaborators nodes (.ofRemovals (earlier ++ [removal])) middle =
        some (report, last) := by
      rw [joined]
      cases answer with
      | ok => simpa [removal, Removal.deleted?, Removal.failed?, Table.putAll] using done
      | error detail => simpa [removal, Removal.deleted?, Removal.failed?, Table.putAll] using done
    obtain ⟨removals, rfl, performed, rfl⟩ := ih _ next rest
    refine ⟨removal :: removals, rfl, ?_, by simp⟩
    exact (Collaborators.deleteAccelerator_performs asked).trans performed

end Scaledown.Accelerator
