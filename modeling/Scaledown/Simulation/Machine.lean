/-
This file holds a simulated machine with a file tree and scripted programs.
-/

import Scaledown.OperatingSystem.Program
import Scaledown.Table
import Scaledown.Text.Split
import Scaledown.Text.Utf8

namespace Scaledown.Simulation

open OperatingSystem

/-- A scripted program answers its runs in turn and keeps their arguments. -/
structure ScriptedProgram where
  replies : List (Option Execution)
  runs : List (List String)
  deriving DecidableEq, Repr

/-- Without a script a hostlist is expanded at its commas, and nothing else is said. -/
def usualOutput : List String → String
  | ["show", "hostnames", expression] => expression.map fun c => if c = ',' then '\n' else c
  | _ => ""

def usualExecution (arguments : List String) : Execution :=
  ⟨.exited 0, Text.toBytes (usualOutput arguments), []⟩

def ScriptedProgram.run (program : ScriptedProgram) (arguments : List String) :
    Execution × ScriptedProgram :=
  let reply := match program.replies with
    | some execution :: _ => execution
    | _ => usualExecution arguments
  (reply, ⟨program.replies.tail, program.runs ++ [arguments]⟩)

/-- A program follows the script of a name, or it always ends with the same code. -/
inductive Program where
  | scripted (name : String)
  | constant (code : UInt8)
  deriving DecidableEq, Repr

/-- The file tree has directories, files and programs. -/
inductive Entry where
  | directory
  | file (content : List UInt8)
  | program (program : Program)
  deriving DecidableEq, Repr

/-- A place is reached from the root by these names. -/
abbrev Place := List String

/-- Commands are found by their names alone, and all else by a path. -/
structure Machine where
  workplace : Place
  tree : List (Place × Entry)
  commands : Table Program
  scripts : Table ScriptedProgram
  deriving DecidableEq, Repr

namespace Machine

/-- These commands end at once with a code. -/
def plainCommands : Table Program :=
  [("true", .constant 0), ("false", .constant 1), ("echo", .constant 0)]

/-- The usual directories hold the plain commands and some files that cannot be run. -/
def usualTree : List (Place × Entry) :=
  [(["work"], .directory), (["tmp"], .directory),
   (["etc"], .directory), (["etc", "hosts"], .file []), (["etc", "passwd"], .file []),
   (["dev"], .directory), (["dev", "null"], .file []),
   (["bin"], .directory), (["usr"], .directory), (["usr", "bin"], .directory)] ++
    [["bin"], ["usr", "bin"]].flatMap fun place =>
      plainCommands.map fun command => (place ++ [command.1], .program command.2)

/-- A bare machine has no scripted programs. -/
def bare : Machine :=
  { workplace := ["work"]
    tree := usualTree
    commands := plainCommands
    scripts := [] }

def add (machine : Machine) (place : Place) (entry : Entry) : Machine :=
  { machine with tree := machine.tree ++ [(place, entry)] }

/-- A scripted program can be found as a command. -/
def addScript (machine : Machine) (name : String) (replies : List (Option Execution)) : Machine :=
  { machine with
    commands := machine.commands.put name (.scripted name)
    scripts := machine.scripts.put name ⟨replies, []⟩ }

/-- The root is always a directory. -/
def entry? (machine : Machine) (place : Place) : Option Entry :=
  if place = [] then some .directory else machine.tree.lookup place

/-- Only a directory leads to other places. -/
def walk (machine : Machine) (place : Place) (name : String) : Except FileFault Place :=
  match machine.entry? place with
  | none => .error .missing
  | some .directory =>
    if name = "" ∨ name = "." then .ok place
    else if name = ".." then .ok place.dropLast
    else if nameLimit < name.utf8ByteSize then .error .nameTooLong
    else .ok (place ++ [name])
  | some _ => .error .notDirectory

/-- A path that starts with a slash starts at the root. -/
def startOf (machine : Machine) (path : String) : Place :=
  if isAbsolute path then [] else machine.workplace

/-- The empty path leads nowhere. -/
def placeOf (machine : Machine) (path : String) : Except FileFault Place :=
  if path = "" then .error .missing
  else
    match pathFault? path with
    | some fault => .error fault
    | none => (namesOf path).foldlM machine.walk (machine.startOf path)

def find (machine : Machine) (path : String) : Except FileFault Entry := do
  match machine.entry? (← machine.placeOf path) with
  | some entry => return entry
  | none => throw .missing

/-- A program is read as a text file. -/
def read (machine : Machine) (path : String) : Except FileFault (List UInt8) := do
  match ← machine.find path with
  | .directory => throw .directory
  | .file content => return content
  | .program _ => return Text.toBytes "#!/bin/sh\n"

/-- One directory is made in a directory that is there, under a name of its own. -/
def addDirectory (machine : Machine) (start : Place) (names : List String) :
    Except FileFault Machine := do
  let parent ← names.dropLast.foldlM machine.walk start
  let place ← machine.walk parent (names.getLast?.getD "")
  if place = parent ∨ (machine.entry? place).isSome then throw .occupied
  return machine.add place .directory

/-- A directory that is there already does not have to be made. -/
def ensureDirectory (machine : Machine) (start : Place) (names : List String) :
    Except FileFault Machine := do
  match machine.addDirectory start names with
  | .error .occupied =>
    if machine.entry? (← names.foldlM machine.walk start) = some .directory then return machine
    else throw .occupied
  | answer => answer

/-- The paths go from the longest to the shortest, and a path is tried again after the shorter
ones are made. -/
def makeDirectories (start : Place) : List (List String) → Machine → Except FileFault Machine
  | [], machine => .ok machine
  | names :: shorter, machine =>
    match machine.ensureDirectory start names with
    | .error .missing => do
      (← makeDirectories start shorter machine).ensureDirectory start names
    | answer => answer

/-- The empty path asks for no directory. -/
def makeDirectory (machine : Machine) (path : String) : Except FileFault Machine :=
  if path = "" then .ok machine
  else
    match pathFault? path with
    | some fault => .error fault
    | none =>
      makeDirectories (machine.startOf path) (wayTo ((namesOf path).filter (· ≠ ""))) machine

/-- A missing log is made, and an old one is kept. -/
def openLog (machine : Machine) (path : String) : Except FileFault Machine := do
  let place ← machine.placeOf path
  match machine.entry? place with
  | some .directory => throw .directory
  | some _ => return machine
  | none => return machine.add place (.file [])

/-- A file that is no program must not be run. -/
def programAt (machine : Machine) (path : String) : Except FileFault Program := do
  match ← machine.find path with
  | .program program => return program
  | _ => throw .denied

/-- A name without a slash is looked up among the commands, and dots lead to directories. -/
def programOf (machine : Machine) (name : String) : Except FileFault Program :=
  if name.toList.contains '/' then machine.programAt name
  else if name = "." ∨ name = ".." then .error .denied
  else if nameLimit < name.utf8ByteSize then .error .nameTooLong
  else
    match machine.commands.find? name with
    | some program => .ok program
    | none => .error .missing

def execute (machine : Machine) (arguments : List String) : Program → Execution × Machine
  | .constant code => (⟨.exited code, [], []⟩, machine)
  | .scripted name =>
    let (execution, left) := ((machine.scripts.find? name).getD ⟨[], []⟩).run arguments
    (execution, { machine with scripts := machine.scripts.put name left })

/-- The runs of a script are listed in order. -/
def runsOf (machine : Machine) (name : String) : List (List String) :=
  match machine.scripts.find? name with
  | some program => program.runs
  | none => []

end Machine

/-- A change of the machine happens only when it succeeds. -/
def changing (change : Machine → Except FileFault Machine) :
    Reply Machine (Except FileFault Unit) := fun machine =>
  match change machine with
  | .ok changed => some (.ok (), changed)
  | .error fault => some (.error fault, machine)

def files : Files Machine where
  read path machine := some (machine.read path, machine)
  makeDirectory path := changing fun machine => machine.makeDirectory path
  openLog path := changing fun machine => machine.openLog path

def programs : Programs Machine where
  run name arguments machine :=
    match machine.programOf name with
    | .error fault => some (.error (.file fault), machine)
    | .ok program =>
      if arguments.any isLong then some (.error .longArgument, machine)
      else
        let (execution, changed) := machine.execute arguments program
        some (.ok execution, changed)

end Scaledown.Simulation
