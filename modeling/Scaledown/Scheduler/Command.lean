/-
This file speaks to the scheduler through its command.
-/

import Scaledown.Session
import Scaledown.OperatingSystem.Program
import Scaledown.Text.Split
import Scaledown.Text.Utf8

namespace Scaledown.Scheduler

open OperatingSystem

/-- A question about a hostlist or an update of node states is one call of the command. -/
inductive Command where
  | showHostnames (expression : String)
  | updateNodes (nodes : String) (target : Target) (reason : Option String)
  deriving DecidableEq, Repr

namespace Command

def arguments : Command → List String
  | showHostnames expression => ["show", "hostnames", expression]
  | updateNodes nodes target reason =>
    ["update", "node=" ++ nodes, "state=" ++ target.word] ++
      (reason.map ("reason=" ++ ·)).toList

/-- Errors show the program and its arguments with single spaces in between. -/
def text (program : String) (command : Command) : String :=
  String.intercalate " " (program :: command.arguments)

end Command

/-- Each line of the output that is not blank names one host. -/
def hostnamesOf (output : String) : List String :=
  (((Text.lines output.toList).map Text.trim).filter (· ≠ [])).map String.ofList

variable {World : Type} (programs : Programs World) (program : String)

/-- This reply runs the command and gives its output. -/
def run (command : Command) : Reply World (Except Error String) := do
  match ← programs.start program command.arguments with
  | .error fault => return .error (.notStarted (command.text program) fault.message)
  | .ok execution =>
    if execution.status.succeeded then return .ok (Text.ofBytesLossy execution.output)
    else
      let messages := Text.trim (Text.ofBytesLossy execution.messages).toList
      return .error
        (.exited (command.text program) execution.status.text (String.ofList messages))

/-- The expansion of an expression lists at least one host. -/
def expandHostlist (expression : String) : Reply World (Except Error (List String)) := do
  match ← run programs program (.showHostnames expression) with
  | .error error => return .error error
  | .ok output =>
    match hostnamesOf output with
    | [] => return .error (.emptyHostlist expression)
    | hostnames => return .ok hostnames

/-- The output of an update says nothing. -/
def updateNodes (nodes : String) (target : Target) (reason : Option String) :
    Reply World (Except Error Unit) := do
  match ← run programs program (.updateNodes nodes target reason) with
  | .error error => return .error error
  | .ok _ => return .ok ()

/-- The scheduler is controlled by the named program. -/
def controller : Controller World where
  expandHostlist := expandHostlist programs program
  updateNodes := updateNodes programs program

end Scaledown.Scheduler
