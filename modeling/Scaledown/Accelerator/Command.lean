/-
This file deletes one accelerator node through the command of the provider.
-/

import Scaledown.Session
import Scaledown.OperatingSystem.Program
import Scaledown.Text.Split
import Scaledown.Text.Utf8

namespace Scaledown.Accelerator

open OperatingSystem

/-- The command asks no question and returns when the node is gone. -/
def deletionArguments (node zone : String) : List String :=
  ["alpha", "compute", "tpus", "tpu-vm", "delete", node, "--zone=" ++ zone, "--quiet"]

/-- The last line that is not blank tells why the command failed. -/
def lastLine? (messages : String) : Option String :=
  (((Text.lines messages.toList).map Text.trim).filter (· ≠ [])).getLast?.map String.ofList

/-- A failed command is told by its status and its last line. -/
def failureText (execution : Execution) : String :=
  "gcloud exited with " ++ execution.status.text ++ ": " ++
    (lastLine? (Text.ofBytesLossy execution.messages)).getD "no output"

variable {World : Type} (programs : Programs World) (program : String)

def delete (node zone : String) : Reply World (Except String Unit) := do
  match ← programs.start program (deletionArguments node zone) with
  | .error fault => return .error ("spawn " ++ program ++ ": " ++ fault.message)
  | .ok execution =>
    if execution.status.succeeded then return .ok ()
    else return .error (failureText execution)

/-- Accelerator nodes are deleted by the named program. -/
def deleter : AcceleratorDeleter World where
  delete := delete programs program

end Scaledown.Accelerator
