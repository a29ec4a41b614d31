/-
This file reads the command line of the program.
-/

import Scaledown.Text.Decimal
import Scaledown.Text.Split

namespace Scaledown.CommandLine

/-- The first operand is a hostlist, the second one is a job, and the others are ignored. -/
structure Arguments where
  operands : List String
  configPath : String
  debug : Bool
  deriving DecidableEq, Repr

def defaultConfigPath : String := "/etc/reaper/config.toml"

/-- A command line asks for a run, for the help or for the version, or it is refused. -/
inductive Demand where
  | run (arguments : Arguments)
  | help
  | version
  | refusal
  deriving DecidableEq, Repr

/-- The options that were read so far may each be given once. -/
structure Options where
  operands : List String
  configPath : Option String
  debug : Bool
  deriving DecidableEq, Repr

def Options.none : Options := ⟨[], .none, false⟩

/-- An option starts with a dash and says something after it. -/
inductive Word where
  | operand
  | stop
  | long (name : String) (value : Option String)
  | short (letters : List Char)
  deriving DecidableEq, Repr

/-- Two dashes alone stop the options, and one dash alone is an operand. -/
def wordOf (text : String) : Word :=
  match text.toList with
  | ['-', '-'] => .stop
  | '-' :: '-' :: option =>
    match Text.cutFirst? ['='] option with
    | some (name, value) => .long (String.ofList name) (some (String.ofList value))
    | none => .long (String.ofList option) none
  | '-' :: letter :: letters => .short (letter :: letters)
  | _ => .operand

namespace Options

/-- A path is not empty and is given at most once. -/
def setConfigPath? (options : Options) (path : String) : Option Options :=
  if path = "" ∨ options.configPath.isSome then .none
  else some { options with configPath := some path }

def setDebug? (options : Options) : Option Options :=
  if options.debug then .none else some { options with debug := true }

def addOperands (options : Options) (operands : List String) : Options :=
  { options with operands := options.operands ++ operands }

/-- At least one operand is required. -/
def finish (options : Options) : Demand :=
  if options.operands = [] then .refusal
  else .run ⟨options.operands, options.configPath.getD defaultConfigPath, options.debug⟩

end Options

/-- The words are read from left to right, and the first help, version or fault decides. -/
def readWords : List String → Options → Demand
  | [], options => options.finish
  | text :: rest, options =>
    match wordOf text with
    | .operand => readWords rest (options.addOperands [text])
    | .stop => (options.addOperands rest).finish
    | .short ('h' :: _) => .help
    | .short ('V' :: _) => .version
    | .short _ => .refusal
    | .long "help" none => .help
    | .long "version" none => .version
    | .long "debug" none =>
      match options.setDebug? with
      | some options => readWords rest options
      | none => .refusal
    | .long "config" (some path) =>
      match options.setConfigPath? path with
      | some options => readWords rest options
      | none => .refusal
    | .long "config" none =>
      match rest with
      | [] => .refusal
      | path :: rest =>
        match wordOf path, options.setConfigPath? path with
        | .operand, some options => readWords rest options
        | _, _ => .refusal
    | .long _ _ => .refusal

/-- The scheduler tells an epilog of its job by these values. -/
structure JobEnvironment where
  nodes : Option String
  job : Option String
  deriving DecidableEq, Repr

/-- The job stands behind its nodes at the end of the command line, and never without them. -/
def JobEnvironment.extend (environment : JobEnvironment) (words : List String) : List String :=
  match environment.nodes with
  | none => words
  | some nodes => words ++ nodes :: environment.job.toList

def read (words : List String) : Demand :=
  readWords words .none

namespace Arguments

def hostlist (arguments : Arguments) : String :=
  arguments.operands.head?.getD ""

/-- The job is a number of sixty-four bits, if there is a second operand. -/
def job? (arguments : Arguments) : Except (String × Text.DecimalFault) (Option Nat) :=
  match arguments.operands[1]? with
  | none => .ok none
  | some operand =>
    match Text.decimal Text.maxWord64 operand.toList with
    | .ok number => .ok (some number)
    | .error fault => .error (operand, fault)

end Arguments

end Scaledown.CommandLine
