/-
This file holds durations and their written form.
-/

import Scaledown.Text.Decimal
import Scaledown.Text.Split

namespace Scaledown

/-- A duration is a whole number of milliseconds. -/
structure Duration where
  millis : Nat
  deriving DecidableEq, Repr

/-- A written duration counts one of these units. -/
inductive TimeUnit where
  | millisecond
  | second
  | minute
  deriving DecidableEq, Repr

namespace TimeUnit

/-- The unit is told by the letters at the end, and a bare count stands for seconds. -/
def cut (text : List Char) : List Char × TimeUnit :=
  match Text.dropEnd? ['s'] text with
  | some front =>
    match Text.dropEnd? ['m'] front with
    | some count => (count, millisecond)
    | none => (front, second)
  | none =>
    match Text.dropEnd? ['m'] text with
    | some count => (count, minute)
    | none => (text, second)

end TimeUnit

namespace Duration

def zero : Duration := ⟨0⟩

/-- Minutes are counted in seconds of sixty-four bits, and more of them are an overflow. -/
def ofCount? (count : Nat) : TimeUnit → Option Duration
  | .millisecond => some ⟨count⟩
  | .second => some ⟨count * 1000⟩
  | .minute => if count * 60 ≤ Text.maxWord64 then some ⟨count * 60 * 1000⟩ else none

/-- A duration is written as a count and a unit, with blanks at both ends only. -/
def ofText? (text : String) : Option Duration := do
  let (digits, unit) := TimeUnit.cut (Text.trim text.toList)
  let count ← (Text.decimal Text.maxWord64 digits).toOption
  ofCount? count unit

end Duration

end Scaledown
