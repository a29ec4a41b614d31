/-
This file runs the program from its words to its outcome.
-/

import Scaledown.Accelerator.Command
import Scaledown.CommandLine.Arguments
import Scaledown.CommandLine.LogFilter
import Scaledown.CommandLine.Outcome
import Scaledown.Compute.Service
import Scaledown.Config.Reader
import Scaledown.Scheduler.Command
import Scaledown.Suspend.Run

namespace Scaledown.CommandLine

open Suspend

/-- The program finds its job and the setting of its log in the environment. -/
structure Environment where
  job : JobEnvironment
  logSetting : Option String
  deriving DecidableEq, Repr

/-- The program works with files, other programs and the network. -/
structure Surroundings (World : Type) where
  files : OperatingSystem.Files World
  programs : OperatingSystem.Programs World
  network : Http.Network World

def logName : String := "reaper-suspend.log"

/-- The lines of a report and the last line of a run come from these parts of the program. -/
def reportSource : String := "reaper_suspend::suspend"

def programSource : String := "reaper_suspend"

def finished : LogLine := ⟨.info, "suspend finished", []⟩

/-- The log of a run that did not fail ends with a line of its own. -/
def logOf (filter : LogFilter) (report : Report) : List LogLine :=
  (report.summary.filter (filter.shows reportSource)) ++
    [finished].filter (filter.shows programSource)

def configFailure (path : String) (error : Config.Error) : Failure :=
  ⟨"loading " ++ path, error.message :: error.causes⟩

def jobFailure (operand : String) (fault : Text.DecimalFault) : Failure :=
  ⟨"invalid job id " ++ Text.quoted operand, [fault.message]⟩

def runFailure (hostlist : String) (error : Suspend.Error) : Failure :=
  ⟨"suspending " ++ hostlist, error.message :: error.causes⟩

variable {World : Type}

/-- The scheduler and the deleter leave the token of the provider as it is. -/
def collaborators (surroundings : Surroundings World) (config : Config)
    (source : Compute.TokenSource) (patience : Nat) : Collaborators (Compute.Online World) :=
  let client := Compute.Client.ofEndpoint config.effectiveEndpoint config.project source
  let scheduler := Scheduler.controller surroundings.programs config.schedulerProgram
  let deleter := Accelerator.deleter surroundings.programs config.suspend.acceleratorCommand
  { provider := client.provider surroundings.network patience
    scheduler :=
      { expandHostlist := fun expression =>
          Compute.Online.lift (scheduler.expandHostlist expression)
        updateNodes := fun nodes target reason =>
          Compute.Online.lift (scheduler.updateNodes nodes target reason) }
    accelerator :=
      { delete := fun node zone => Compute.Online.lift (deleter.delete node zone) } }

/-- A run starts without a token and at time zero. -/
def suspend (surroundings : Surroundings World) (config : Config) (source : Compute.TokenSource)
    (patience : Nat) (request : Request) : Reply World (Except Suspend.Error Report) :=
  fun world => do
    let (result, session) ← Suspend.run (collaborators surroundings config source patience) config
      patience request (Session.start ⟨none, world⟩)
    return (result, session.world.world)

/-- The directory of the log is made when it is missing. -/
def openLog (files : OperatingSystem.Files World) :
    Option String → Reply World (Except Failure Sink)
  | none => return .ok .standardError
  | some directory => do
    match ← files.makeDirectory directory with
    | .error fault =>
      return .error ⟨"creating log directory " ++ directory, [fault.message]⟩
    | .ok () =>
      let path := OperatingSystem.joinPath directory logName
      match ← files.openLog path with
      | .error fault => return .error ⟨"opening log file " ++ path, [fault.message]⟩
      | .ok () => return .ok (.file path)

/-- The metadata server is asked for tokens unless a key file is configured. -/
def tokenSource (files : OperatingSystem.Files World) :
    Option String → Reply World (Except Failure Compute.TokenSource)
  | none => return .ok .metadata
  | some path => do
    match Compute.TokenSource.ofKeyFile path (← files.read path) with
    | .ok source => return .ok source
    | .error error => return .error ⟨error.message, []⟩

/-- The key file is read before the job is looked at. -/
def runConfigured (surroundings : Surroundings World) (filter : LogFilter)
    (arguments : Arguments) (config : Config) (patience : Nat) :
    Reply World (Except Failure (List LogLine)) := do
  match ← tokenSource surroundings.files config.credentialsPath with
  | .error failure => return .error failure
  | .ok source =>
    match arguments.job? with
    | .error (operand, fault) => return .error (jobFailure operand fault)
    | .ok job =>
      let request : Request := ⟨arguments.hostlist, Trigger.ofJob? job⟩
      match ← suspend surroundings config source patience request with
      | .error error => return .error (runFailure arguments.hostlist error)
      | .ok report => return .ok (logOf filter report)

/-- The log is opened as soon as the configuration is known. -/
def start (surroundings : Surroundings World) (setting : Option String) (arguments : Arguments)
    (patience : Nat) : Reply World Started := do
  let contents ← surroundings.files.read arguments.configPath
  match Config.ofFile arguments.configPath contents with
  | .error error =>
    return ⟨.standardError, [], some (configFailure arguments.configPath error)⟩
  | .ok config =>
    match ← openLog surroundings.files config.logDirectory with
    | .error failure => return ⟨.standardError, [], some failure⟩
    | .ok sink =>
      let filter := LogFilter.choose arguments.debug setting
      match ← runConfigured surroundings filter arguments config patience with
      | .error failure => return ⟨sink, [], some failure⟩
      | .ok lines => return ⟨sink, lines, none⟩

/-- The words of the command line come after the name of the program. -/
def run (surroundings : Surroundings World) (environment : Environment) (words : List String)
    (patience : Nat) : Reply World Outcome :=
  match read (environment.job.extend words) with
  | .help => return .help
  | .version => return .version
  | .refusal => return .refused
  | .run arguments => do
    return .started (← start surroundings environment.logSetting arguments patience)

end Scaledown.CommandLine
