/-
This file holds what the program shows at its end.
-/

import Scaledown.CommandLine.Failure
import Scaledown.Suspend.Summary

namespace Scaledown.CommandLine

open Suspend

/-- The log goes to a file or to the standard error stream. -/
inductive Sink where
  | standardError
  | file (path : String)
  deriving DecidableEq, Repr

/-- A started run leaves log lines and perhaps a failure behind. -/
structure Started where
  sink : Sink
  log : List LogLine
  failure : Option Failure
  deriving DecidableEq, Repr

/-- The program shows its help or its version, refuses its arguments, or starts a run. -/
inductive Outcome where
  | help
  | version
  | refused
  | started (run : Started)
  deriving DecidableEq, Repr

namespace Outcome

def versionText : String := "reaper-suspend 0.1.0\n"

/-- Only refused arguments and a failed run end the program with a code other than zero. -/
def exitCode : Outcome → UInt8
  | help => 0
  | version => 0
  | refused => 2
  | started run => if run.failure.isSome then 1 else 0

def log : Outcome → List LogLine
  | started run => run.log
  | _ => []

def sink : Outcome → Sink
  | started run => run.sink
  | _ => .standardError

def failure? : Outcome → Option Failure
  | started run => run.failure
  | _ => none

end Outcome

def levelWord : Level → String
  | .trace => "TRACE"
  | .debug => "DEBUG"
  | .info => "INFO"
  | .warn => "WARN"
  | .error => "ERROR"

/-- A line is written with its level first and its fields last. -/
def lineText (line : LogLine) : String :=
  String.intercalate " "
    (levelWord line.level :: line.message ::
      line.fields.map fun field => field.1 ++ "=" ++ field.2)

end Scaledown.CommandLine
