/-
This file brings the paths of addresses into their normal form.
-/

import Scaledown.Text.Case
import Scaledown.Url.Escape

namespace Scaledown.Url

/-- A backslash separates segments in web addresses and in the addresses of files. -/
def isSlash (special : Bool) (c : Char) : Bool :=
  c == '/' || (special && c == '\\')

/-- An escaped dot is a dot. -/
def plainDots (segment : List Char) : List Char :=
  ['.'].intercalate (Text.cutAll "%2e".toList (Text.lower segment))

def isSingleDot (segment : List Char) : Bool :=
  plainDots segment == ".".toList

def isDoubleDot (segment : List Char) : Bool :=
  plainDots segment == "..".toList

/-- A drive is named by a letter and a colon, or a bar in place of the colon. -/
def isDrive : List Char → Bool
  | [letter, sign] => letter.isAlpha && (sign == ':' || sign == '|')
  | _ => false

/-- A path has some segments, and the path of a file may start at a drive. -/
structure Path where
  segments : List (List Char)
  startsAtDrive : Bool
  deriving DecidableEq, Repr

namespace Path

def root : Path := ⟨[], false⟩

def add (path : Path) (segments : List (List Char)) : Path :=
  { path with segments := path.segments ++ segments }

/-- A step up does not leave a drive. -/
def up (path : Path) : Path :=
  if path.segments.getLast?.any isDrive then path
  else { path with segments := path.segments.dropLast }

/-- A drive is written with a colon. -/
def atDrive (drive : List Char) : Path :=
  ⟨[drive.take 1 ++ [':']], true⟩

/-- A dot segment at the end leaves an empty segment behind, and the first segment in the path of a
file may name a drive. -/
def addSegment (isFile : Bool) (path : Path) (isLast : Bool) (segment : List Char) : Path :=
  let closing := if isLast then [[]] else []
  if isDoubleDot segment then path.up.add closing
  else if isSingleDot segment then path.add closing
  else if isFile && path.segments.isEmpty && isDrive segment then atDrive segment
  else path.add [Text.percentEncode keepsPath segment]

/-- This function resolves the segments after a path. -/
def resolve (isFile : Bool) : Path → List (List Char) → Path
  | path, [] => path
  | path, segment :: segments =>
    resolve isFile (path.addSegment isFile segments.isEmpty segment) segments

/-- Each segment is written after a slash. -/
def text (path : Path) : List Char :=
  path.segments.flatMap fun segment => '/' :: segment

end Path

/-- The first slash of a path belongs to its first segment. -/
def dropSlash (special : Bool) : List Char → List Char
  | [] => []
  | c :: path => if isSlash special c then path else c :: path

def segmentsOf (special : Bool) (path : List Char) : List (List Char) :=
  Text.cutAll ['/'] (path.map fun c => if isSlash special c then '/' else c)

/-- A web address has at least the path with one slash. -/
def normalPath (special : Bool) (path : List Char) : String :=
  if path = [] ∧ !special then ""
  else String.ofList (Path.root.resolve false (segmentsOf special (dropSlash special path))).text

/-- The slashes at the start of the path of a file count once. -/
def filePath (path : List Char) : String × Bool :=
  let resolved := Path.root.resolve true (segmentsOf true path)
  (String.ofList ('/' :: resolved.text.dropWhile (· == '/')), resolved.startsAtDrive)

end Scaledown.Url
