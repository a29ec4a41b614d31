/-
This file holds what the operating system answers about programs.
-/

import Scaledown.OperatingSystem.File

namespace Scaledown.OperatingSystem

/-- A program ends by itself with a code of one byte, or a signal ends it. -/
inductive ExitStatus where
  | exited (code : UInt8)
  | killed (signal : Nat)
  deriving DecidableEq, Repr

namespace ExitStatus

def succeeded : ExitStatus → Bool
  | exited code => code == 0
  | killed _ => false

/-- The signals with a name are numbered from one on in this order. -/
def signalNames : List String :=
  ["HUP", "INT", "QUIT", "ILL", "TRAP", "ABRT", "BUS", "FPE", "KILL", "USR1", "SEGV", "USR2",
   "PIPE", "ALRM", "TERM", "STKFLT", "CHLD", "CONT", "STOP", "TSTP", "TTIN", "TTOU", "URG",
   "XCPU", "XFSZ", "VTALRM", "PROF", "WINCH", "IO", "PWR", "SYS"]

def signalName? : Nat → Option String
  | 0 => none
  | number + 1 => signalNames[number]?

def text : ExitStatus → String
  | exited code => "exit status: " ++ Nat.repr code.toNat
  | killed signal =>
    "signal: " ++ Nat.repr signal ++
      match signalName? signal with
      | some name => " (SIG" ++ name ++ ")"
      | none => ""

end ExitStatus

/-- A program that was run has ended and has written to two streams. -/
structure Execution where
  status : ExitStatus
  output : List UInt8
  messages : List UInt8
  deriving DecidableEq, Repr

/-- A program cannot be started when its file or an argument cannot be used. -/
inductive StartFault where
  | file (fault : FileFault)
  | nulCharacter
  | longArgument
  deriving DecidableEq, Repr

def StartFault.message : StartFault → String
  | file fault => fault.message
  | nulCharacter => "nul byte found in provided data"
  | longArgument => "Argument list too long (os error 7)"

/-- An argument has at most this many bytes. -/
def argumentLimit : Nat := 131071

def isLong (argument : String) : Bool :=
  argumentLimit < argument.utf8ByteSize

/-- The system runs a program by its name or path with some arguments. -/
structure Programs (World : Type) where
  run : String → List String → Reply World (Except StartFault Execution)

/-- No argument that holds the character NUL can be given to a program. -/
def Programs.start {World : Type} (programs : Programs World) (program : String)
    (arguments : List String) : Reply World (Except StartFault Execution) :=
  if (program :: arguments).any fun text => text.toList.contains '\x00' then
    return .error .nulCharacter
  else programs.run program arguments

end Scaledown.OperatingSystem
