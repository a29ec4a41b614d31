/-
This file tells which lines of the log are shown.
-/

import Scaledown.CommandLine.Pattern
import Scaledown.Suspend.Summary
import Scaledown.Text.Decimal

namespace Scaledown.CommandLine

open Suspend

/-- A threshold shows the levels up to a number, and zero shows none. -/
abbrev Threshold := Nat

def everything : Threshold := 5

/-- The most severe level has the smallest number. -/
def numberOf : Level → Threshold
  | .error => 1
  | .warn => 2
  | .info => 3
  | .debug => 4
  | .trace => 5

def thresholdNames : List (String × Threshold) :=
  [("off", 0), ("error", 1), ("warn", 2), ("info", 3), ("debug", 4), ("trace", 5)]

/-- A threshold is written by its name in any case of letters, or by its number. -/
def threshold? (text : List Char) : Option Threshold :=
  match thresholdNames.find? fun entry => Text.sameLetters entry.1.toList text with
  | some (_, threshold) => some threshold
  | none => (Text.decimal everything text).toOption

/-- Digits may have a point among them. -/
def isMantissa (text : List Char) : Bool :=
  text.any Char.isDigit && text.all (fun c => c.isDigit || c == '.') && text.count '.' ≤ 1

def isExponent (text : List Char) : Bool :=
  let digits := match text with
    | '+' :: digits => digits
    | '-' :: digits => digits
    | digits => digits
  digits != [] && digits.all Char.isDigit

/-- A number without a sign may be infinite or undefined. -/
def isNumber (text : List Char) : Bool :=
  let isMark := fun c : Char => c.toLower == 'e'
  ["inf", "infinity", "nan"].any (fun name => Text.sameLetters name.toList text) ||
    (isMantissa (text.takeWhile fun c => !isMark c) &&
      match text.dropWhile fun c => !isMark c with
      | _ :: exponent => isExponent exponent
      | [] => true)

/-- A value is a pattern, or a number that is none because of a plus sign in front. -/
def isValue (text : List Char) : Bool :=
  Pattern.isPattern text ||
    match text with
    | '+' :: number => isNumber number
    | _ => false

/-- This function drops so many bytes, which must not end within a character. -/
def dropBytes? : Nat → List Char → Option (List Char)
  | 0, text => some text
  | _, [] => none
  | count, c :: text =>
    if c.utf8Size ≤ count then dropBytes? (count - c.utf8Size) text else none

/-- This function takes so many bytes, which must not end within a character. -/
def takeBytes? : Nat → List Char → Option (List Char)
  | 0, _ => some []
  | _, [] => none
  | count, c :: text =>
    if c.utf8Size ≤ count then (takeBytes? (count - c.utf8Size) text).map (c :: ·) else none

def slice? (text : List Char) (first last : Nat) : Option (List Char) := do
  takeBytes? (last - first) (← dropBytes? first text)

/-- A directive sets the threshold of the lines from a source that have the named fields. -/
structure Directive where
  threshold : Threshold
  source : Option String
  fields : List String
  /-- A directive for open spans or for values of fields shows no line by itself. -/
  isForSpans : Bool
  deriving DecidableEq, Repr

/-- A reader of a directive is at one of these places, some with the position of their start. -/
inductive Place where
  | start
  | name
  | span (first : Nat)
  | field (first : Nat)
  | afterField
  | afterSpan
  | level (first : Nat)
  deriving DecidableEq, Repr

namespace Directive

def unlimited : Directive := ⟨everything, none, [], false⟩

/-- The text after the equals sign is a threshold, and an empty one is the highest. -/
def thresholdAfter? (text : List Char) : Option Threshold :=
  if text = [] then some everything else threshold? text

def levelOrSource (text : List Char) : Directive :=
  match threshold? text with
  | some threshold => { unlimited with threshold := threshold }
  | none => { unlimited with source := some (String.ofList text) }

/-- A field may have a value after an equals sign. -/
def withField? (directive : Directive) (field : List Char) : Option Directive :=
  match Text.cutAll ['='] field with
  | _ :: value :: _ => if isValue value then some { directive with isForSpans := true } else none
  | _ =>
    if field = [] then none
    else some { directive with fields := directive.fields ++ [String.ofList field] }

def canStart (c : Char) : Bool :=
  Text.isAlphanumeric c || "-:_".toList.contains c

/-- A character at a position of the text leads to the next place. The parts of a directive are
taken from the text at the positions where the reader found their bounds. -/
def next? (text : List Char) (directive : Directive) (position : Nat) (c : Char) :
    Place → Option (Directive × Place)
  | .start =>
    if c = '[' then some (directive, .span (position + 1))
    else if canStart c then some (directive, .name)
    else none
  | .name => do
    if c ≠ '=' ∧ c ≠ '[' then return (directive, .name)
    let directive := { directive with source := some (String.ofList (← slice? text 0 position)) }
    return (directive, if c = '[' then .span (position + 1) else .level (position + 1))
  | .span first => do
    if c ≠ ']' ∧ c ≠ '\x7b' then return (directive, .span first)
    let name ← slice? text first position
    if c = ']' then return ({ directive with isForSpans := true }, .afterSpan)
    return ({ directive with isForSpans := name != [] }, .field (position + 1))
  | .field first => do
    if c ≠ '\x7d' then return (directive, .field first)
    return (← directive.withField? (← slice? text first position), .afterField)
  | .afterField => if c = ']' then some (directive, .afterSpan) else none
  | .afterSpan => if c = '=' then some (directive, .level (position + 1)) else none
  | .level first => some (directive, .level first)

/-- At the end the name may be a threshold, and a threshold after an equals sign is read. -/
def finish? (text : List Char) (directive : Directive) : Place → Option Directive
  | .name => some (levelOrSource text)
  | .afterSpan => some directive
  | .level first => do
    return { directive with threshold := ← thresholdAfter? (← dropBytes? first text) }
  | _ => none

def read? (text : List Char) (directive : Directive) (place : Place) :
    Nat → List Char → Option Directive
  | _, [] => directive.finish? text place
  | position, c :: rest => do
    let (directive, place) ← directive.next? text position c place
    read? text directive place (position + c.utf8Size) rest

/-- A directive names a source, a span or both, and then perhaps a threshold. The reader passes
over blanks at both ends, but the positions count from the start of the text. -/
def ofText? (text : List Char) : Option Directive :=
  read? text unlimited .start 0 (Text.trim text)

/-- A source is named by its start, and all fields must be there. -/
def concerns (directive : Directive) (source : String) (fields : List String) : Bool :=
  !directive.isForSpans &&
    (match directive.source with
      | some start => start.toList.isPrefixOf source.toList
      | none => true) &&
    directive.fields.all fields.contains

/-- The fields are compared in the order of a dictionary. -/
def fieldKey (directive : Directive) : String :=
  String.intercalate "\x00" directive.fields

/-- A directive gives way to one with a longer source, or else with more fields. -/
def givesWay (old new : Directive) : Bool :=
  let size := fun directive : Directive => (directive.source.map String.length).elim 0 (· + 1)
  size old < size new ||
    (size old == size new &&
      (old.fields.length < new.fields.length ||
        (old.fields.length == new.fields.length && decide (old.fieldKey ≤ new.fieldKey))))

end Directive

/-- A filter without directives shows errors only. -/
abbrev LogFilter := List Directive

namespace LogFilter

/-- The directives have commas in between, and empty ones are left out. -/
def ofText? (text : String) : Option LogFilter :=
  ((Text.cutAll [','] text.toList).filter (· ≠ [])).mapM Directive.ofText?

/-- The most specific directive for the line decides. -/
def threshold (filter : LogFilter) (source : String) (fields : List String) : Threshold :=
  if filter = [] then numberOf .error
  else
    let concerned := filter.filter fun directive => directive.concerns source fields
    let decisive := concerned.foldl (fun best directive =>
      match best with
      | some old => if Directive.givesWay old directive then some directive else some old
      | none => some directive) none
    (decisive.map Directive.threshold).getD 0

def shows (filter : LogFilter) (source : String) (line : LogLine) : Bool :=
  numberOf line.level ≤ filter.threshold source ("message" :: line.fields.map Prod.fst)

def debugging : LogFilter := [⟨numberOf .debug, none, [], false⟩]

/-- Usually the program itself tells more than the parts it is made of. -/
def usual : LogFilter :=
  [⟨numberOf .info, none, [], false⟩, ⟨numberOf .debug, some "reaper", [], false⟩]

/-- A filter that cannot be read counts as none. -/
def choose (debug : Bool) (setting : Option String) : LogFilter :=
  if debug then debugging else (setting.bind ofText?).getD usual

end LogFilter

end Scaledown.CommandLine
