/-
This file deletes accelerator nodes one after another.
-/

import Scaledown.Session
import Scaledown.Suspend.Error

namespace Scaledown.Accelerator

structure Report where
  deleted : List String
  failed : Table String
  deriving DecidableEq, Repr

def Report.empty : Report := ⟨[], []⟩

variable {World : Type} (collaborators : Collaborators World)

/-- Each deletion ends before the next one starts. -/
def deleteAll : List (String × String) → Report → Step World Report
  | [], report => return report
  | (hostname, zone) :: rest, report => do
    match ← collaborators.deleteAccelerator hostname zone with
    | .ok () => deleteAll rest { report with deleted := report.deleted ++ [hostname] }
    | .error detail =>
      let error := Suspend.Error.accelerator hostname detail
      deleteAll rest { report with failed := report.failed.put hostname error.message }

end Scaledown.Accelerator
