/-
This file runs the program in its own process. The process reads files and writes the log, but it
starts no other program and opens no connection, so every run reports that the scheduler command
is missing.
-/

import Scaledown.CommandLine.Run

namespace Scaledown.Shell

open OperatingSystem CommandLine

/-- The number of a system error tells why a file cannot be used. -/
def faultOf (number : Nat) : FileFault :=
  match number with
  | 13 => .denied
  | 17 => .occupied
  | 20 => .notDirectory
  | 21 => .directory
  | 36 => .nameTooLong
  | _ => .missing

/-- Some numbers of system errors are told as negative numbers of 32 bits. -/
def absolute (number : UInt32) : Nat :=
  min number.toNat (0 - number).toNat

def faultOfError : IO.Error → FileFault
  | .permissionDenied _ number _ => faultOf (absolute number)
  | .alreadyExists _ number _ => faultOf (absolute number)
  | .inappropriateType _ number _ => faultOf (absolute number)
  | .invalidArgument _ number _ => faultOf (absolute number)
  | _ => .missing

/-- A path that names no file is not tried. -/
def attempt {α : Type} (path : String) (action : IO α) : IO (Except FileFault α) := do
  match pathFault? path with
  | some fault => return .error fault
  | none =>
    try return .ok (← action)
    catch error => return .error (faultOfError error)

/-- The process looks at its files before the run starts. -/
structure Snapshot where
  contents : Table (Except FileFault (List UInt8))
  directory : Except FileFault Unit
  log : Except FileFault Unit

def surroundings : Surroundings Snapshot where
  files :=
    { read := fun path snapshot =>
        some ((snapshot.contents.find? path).getD (.error .missing), snapshot)
      makeDirectory := fun _ snapshot => some (snapshot.directory, snapshot)
      openLog := fun _ snapshot => some (snapshot.log, snapshot) }
  programs := { run := fun _ _ => return .error (.file .missing) }
  network := { exchange := fun _ => return .unreachable }

def readContent (path : String) : IO (Except FileFault (List UInt8)) :=
  attempt path do return (← IO.FS.readBinFile path).toList

def appendLines (path : String) (lines : List String) : IO Unit := do
  let handle ← IO.FS.Handle.mk path .append
  for line in lines do
    handle.putStrLn line

/-- A directory that is there already does not have to be made. -/
def ensureDirectory (path : String) : IO (Except FileFault Unit) := do
  match ← attempt path (IO.FS.createDir path) with
  | .error .occupied => attempt path (IO.FS.createDirAll path)
  | answer => return answer

/-- A path is tried again after the shorter ones are made. -/
def makeDirectories : List String → IO (Except FileFault Unit)
  | [] => return .ok ()
  | path :: shorter => do
    match ← ensureDirectory path with
    | .error .missing =>
      match ← makeDirectories shorter with
      | .error fault => return .error fault
      | .ok () => ensureDirectory path
    | answer => return answer

/-- The empty path asks for no directory. -/
def makeDirectory (path : String) : IO (Except FileFault Unit) :=
  let start := if isAbsolute path then "/" else ""
  let shorter := (wayTo ((namesOf path).filter (· ≠ ""))).tail
  if path = "" then return .ok ()
  else makeDirectories (path :: shorter.map fun names => start ++ String.intercalate "/" names)

/-- The log and the key are looked at only when the configuration can be used. -/
def look (arguments : Arguments) : IO Snapshot := do
  let content ← readContent arguments.configPath
  let contents := [(arguments.configPath, content)]
  match Config.ofFile arguments.configPath content with
  | .error _ => return ⟨contents, .ok (), .ok ()⟩
  | .ok config =>
    let (directory, log) ← match config.logDirectory with
      | none => pure (.ok (), .ok ())
      | some path => do
        let directory ← makeDirectory path
        let log ← attempt (joinPath path logName) (appendLines (joinPath path logName) [])
        pure (directory, log)
    match config.credentialsPath with
    | none => return ⟨contents, directory, log⟩
    | some path => return ⟨contents ++ [(path, ← readContent path)], directory, log⟩

def lookFor : Demand → IO Snapshot
  | .run arguments => look arguments
  | _ => return ⟨[], .ok (), .ok ()⟩

def readEnvironment : IO Environment := do
  return ⟨⟨← IO.getEnv "SLURM_JOB_NODELIST", ← IO.getEnv "SLURM_JOB_ID"⟩,
    ← IO.getEnv "RUST_LOG"⟩

def usage : String :=
  "Usage: reaper-suspend [--config PATH] [--debug] NODES [JOB_ID]"

def showLog (lines : List String) : Sink → IO Unit
  | .standardError => for line in lines do IO.eprintln line
  | .file path => appendLines path lines

/-- The help and the version go to the standard output, and all else to the log. -/
def tell (outcome : Outcome) : IO UInt32 := do
  match outcome with
  | .help => IO.println usage
  | .version => IO.print Outcome.versionText
  | .refused => IO.eprintln usage
  | .started run =>
    showLog (run.log.map lineText) run.sink
    if let some failure := run.failure then IO.eprintln ("Error: " ++ failure.text)
  return outcome.exitCode.toUInt32

/-- A run without a scheduler ends after its first question. -/
def patience : Nat := 1

end Scaledown.Shell

def main (words : List String) : IO UInt32 := do
  let environment ← Scaledown.Shell.readEnvironment
  let snapshot ←
    Scaledown.Shell.lookFor (Scaledown.CommandLine.read (environment.job.extend words))
  match Scaledown.CommandLine.run Scaledown.Shell.surroundings environment words
      Scaledown.Shell.patience snapshot with
  | none => return 1
  | some (outcome, _) => Scaledown.Shell.tell outcome
