/-
This file writes the failure of a command with its causes.
-/

import Scaledown.Text.Split

namespace Scaledown.CommandLine

/-- A failure has a message, and its causes go from the nearest to the deepest. -/
structure Failure where
  message : String
  causes : List String
  deriving DecidableEq, Repr

namespace Failure

/-- The lines of a cause after its first one are indented as far as the first. -/
def indented (margin text : String) : String :=
  String.intercalate ("\n" ++ margin) ((Text.cutAll ['\n'] text.toList).map String.ofList)

/-- A number is written to the right of five columns. -/
def numbered (index : Nat) (cause : String) : String :=
  let number := Nat.repr index
  "".pushn ' ' (5 - number.length) ++ number ++ ": " ++ indented "       " cause

/-- A single cause has no number. -/
def causeLines : List String → List String
  | [cause] => ["    " ++ indented "    " cause]
  | causes => causes.zipIdx.map fun entry => numbered entry.2 entry.1

def text (failure : Failure) : String :=
  if failure.causes = [] then failure.message
  else
    String.intercalate "\n"
      (failure.message :: "" :: "Caused by:" :: causeLines failure.causes)

end Failure

end Scaledown.CommandLine
