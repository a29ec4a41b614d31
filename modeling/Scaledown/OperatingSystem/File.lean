/-
This file holds what the operating system answers about files.
-/

import Scaledown.Reply
import Scaledown.Text.Split

namespace Scaledown.OperatingSystem

/-- A file cannot be used for one of these reasons. -/
inductive FileFault where
  | missing
  | directory
  | notDirectory
  | occupied
  | denied
  | nameTooLong
  | nulCharacter
  deriving DecidableEq, Repr

def FileFault.message : FileFault → String
  | missing => "No such file or directory (os error 2)"
  | directory => "Is a directory (os error 21)"
  | notDirectory => "Not a directory (os error 20)"
  | occupied => "File exists (os error 17)"
  | denied => "Permission denied (os error 13)"
  | nameTooLong => "File name too long (os error 36)"
  | nulCharacter => "file name contained an unexpected NUL byte"

/-- A name in a directory has at most this many bytes. -/
def nameLimit : Nat := 255

/-- A path has at most this many bytes. -/
def pathLimit : Nat := 4095

/-- Some paths name no file, whatever the directories hold. -/
def pathFault? (path : String) : Option FileFault :=
  if path.toList.contains '\x00' then some .nulCharacter
  else if pathLimit < path.utf8ByteSize then some .nameTooLong
  else none

/-- A path that starts with a slash is read from the root of the file system. -/
def isAbsolute (path : String) : Bool :=
  path.toList.head? == some '/'

/-- The names of a path stand between its slashes. -/
def namesOf (path : String) : List String :=
  (Text.cutAll ['/'] path.toList).map String.ofList

/-- The way to a directory is the directory itself and then the shorter paths to it, from the
longest to the shortest and without single dots. -/
def wayTo (names : List String) : List (List String) :=
  let steps := (names.filter (· ≠ ".")).dropLast
  names :: ((List.range steps.length).map fun count => steps.take (count + 1)).reverse

/-- The file system reads files, makes directories and opens logs for appending. -/
structure Files (World : Type) where
  read : String → Reply World (Except FileFault (List UInt8))
  makeDirectory : String → Reply World (Except FileFault Unit)
  openLog : String → Reply World (Except FileFault Unit)

/-- A directory and a name are joined by exactly one slash more than the directory lacks. -/
def joinPath (directory name : String) : String :=
  if directory = "" then name
  else if directory.toList.getLast? = some '/' then directory ++ name
  else directory ++ "/" ++ name

end Scaledown.OperatingSystem
