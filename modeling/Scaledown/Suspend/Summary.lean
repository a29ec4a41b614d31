/-
This file writes the summary of a run.
-/

import Scaledown.Suspend.Report

namespace Scaledown.Suspend

/-- A later level is more severe. -/
inductive Level where
  | trace
  | debug
  | info
  | warn
  | error
  deriving DecidableEq, Repr

/-- A line of the log has a message and named values. -/
structure LogLine where
  level : Level
  message : String
  fields : List (String × String)
  deriving DecidableEq, Repr

def Report.totals (report : Report) : List (String × Nat) :=
  [("nodes", report.nodes),
   ("batched", report.batched),
   ("accelerator", report.accelerator),
   ("deleted", report.deleted.length),
   ("readmitted", report.readmitted.length),
   ("absent", report.absent.length),
   ("skipped", report.skipped.length),
   ("failed", report.failed.length),
   ("retry_rounds", report.retryRounds),
   ("batches", report.batchSizes.length),
   ("placement_deleted", report.placementDeleted.length),
   ("placement_failed", report.placementFailed.length)]

/-- The totals come first, and then each failure in the order of the names. -/
def Report.summary (report : Report) : List LogLine :=
  if report.skippedByEpilog then
    [⟨.info, "suspend skipped, partition is not exclusive",
      [("nodes", Nat.repr report.nodes)]⟩]
  else
    ⟨.info, "suspend complete", report.totals.map fun total => (total.1, Nat.repr total.2)⟩ ::
      (report.failed.sorted.map fun entry =>
        ⟨.warn, "node left down", [("node", entry.1), ("reason", entry.2)]⟩) ++
      (report.placementFailed.sorted.map fun entry =>
        ⟨.warn, "placement group not deleted", [("group", entry.1), ("reason", entry.2)]⟩)

end Scaledown.Suspend
