/-
This file tells which configurations are valid.
-/

import Scaledown.Config.Basic
import Scaledown.Proofs.Table

namespace Scaledown

/-- The configuration tells where the nodes of a partition are, or in which region to look. -/
def Partition.IsPlaced (partition : Partition) : Prop :=
  if partition.regionalCapacity then partition.effectiveRegion?.isSome else partition.zone.isSome

namespace Config

/-- A valid configuration can pace a run and places every partition. -/
@[mk_iff]
structure IsValid (config : Config) : Prop where
  project : Text.allBlank config.project.toList = false
  maxBatchRequests : config.suspend.maxBatchRequests ≠ 0
  placementMaxMembers : config.suspend.placementMaxMembers ≠ 0
  batchPause : ∃ pause, config.batchPause = .ok pause
  operationPollInterval : ∃ interval, config.operationPollInterval = .ok interval
  partitions : ∀ entry ∈ config.partitions, entry.2.IsPlaced

theorem validatePartition_eq_ok_iff {name : String} {partition : Partition} :
    validatePartition name partition = .ok () ↔ partition.IsPlaced := by
  unfold validatePartition Partition.IsPlaced
  cases partition.regionalCapacity <;> cases partition.effectiveRegion? <;>
    cases partition.zone <;> simp

theorem validatePartitions_eq_ok_iff {partitions : Table Partition} :
    validatePartitions partitions = .ok () ↔ ∀ entry ∈ partitions, entry.2.IsPlaced := by
  induction partitions with
  | nil => simp [validatePartitions]
  | cons entry partitions ih =>
    rw [List.forall_mem_cons, ← ih, ← validatePartition_eq_ok_iff, validatePartitions]
    cases checked : validatePartition entry.1 entry.2 <;> simp

/-- A check that throws is passed when it does not apply. -/
theorem check_eq_ok_iff {refused : Prop} [Decidable refused] {error : Error}
    {rest : PUnit → Except Error Unit} {passed : Except Error Unit} :
    (if refused then throw error >>= rest else passed) = .ok () ↔
      ¬refused ∧ passed = .ok () := by
  by_cases here : refused <;> simp [here, throw, throwThe, MonadExceptOf.throw, bind, Except.bind]

theorem bind_eq_ok_iff {α : Type} {answer : Except Error α} {rest : α → Except Error Unit} :
    (answer >>= rest) = .ok () ↔ ∃ value, answer = .ok value ∧ rest value = .ok () := by
  cases answer <;> simp [bind, Except.bind]

/-- The validation accepts exactly the valid configurations. -/
theorem validate_eq_ok_iff {config : Config} : config.validate = .ok () ↔ config.IsValid := by
  rw [isValid_iff, ← validatePartitions_eq_ok_iff, validate]
  simp only [check_eq_ok_iff, bind_eq_ok_iff, Bool.not_eq_true, exists_and_right, ne_eq]

/-- A partition of a valid configuration is placed. -/
theorem IsValid.isPlaced {config : Config} {name : String} {partition : Partition}
    (valid : config.IsValid) (found : config.partition name = .ok partition) :
    partition.IsPlaced := by
  have listed : config.partitions.find? name = some partition := by
    unfold Config.partition at found
    split at found
    · rename_i same
      rw [same, Except.ok.inj found]
    · cases found
  exact valid.partitions _ (Table.mem_of_find?_eq_some listed)

end Config

end Scaledown
