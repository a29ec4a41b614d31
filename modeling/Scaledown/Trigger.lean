/-
This file tells what caused a suspend.
-/

namespace Scaledown

/-- The idle policy or the end of a job causes a suspend. -/
inductive Trigger where
  | idle
  | jobCompletion (job : Nat)
  deriving DecidableEq, Repr

namespace Trigger

/-- A missing job and job zero mean the idle policy. -/
def ofJob? : Option Nat → Trigger
  | none => idle
  | some 0 => idle
  | some job => jobCompletion job

def job? : Trigger → Option Nat
  | idle => none
  | jobCompletion job => some job

def isJob : Trigger → Bool
  | idle => false
  | jobCompletion _ => true

end Trigger

end Scaledown
