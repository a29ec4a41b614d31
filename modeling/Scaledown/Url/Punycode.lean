/-
This file writes and reads domain labels with letters outside ASCII by ASCII letters and digits.
-/

import Scaledown.Text.Decimal
import Scaledown.Text.Hex
import Scaledown.Text.Split

namespace Scaledown.Url.Punycode

/-- The digits are the small letters and then the decimal digits. -/
def digit (value : Nat) : Char :=
  if value < 26 then Char.ofNat ('a'.toNat + value) else Char.ofNat ('0'.toNat + value - 26)

/-- A digit below the threshold of its position ends a number. -/
def threshold (position bias : Nat) : Nat :=
  max 1 (min 26 (position - bias))

theorem one_le_threshold (position bias : Nat) : 1 ≤ threshold position bias :=
  Nat.le_max_left ..

/-- This function writes a number with the least significant digit first. -/
def digits (bias position value : Nat) : List Char :=
  let least := threshold position bias
  if value < least then [digit value]
  else
    digit (least + (value - least) % (36 - least)) ::
      digits bias (position + 36) ((value - least) / (36 - least))
termination_by value
decreasing_by
  have positive := one_le_threshold position bias
  have shrinks :=
    Nat.div_le_self (value - threshold position bias) (36 - threshold position bias)
  omega

/-- The bias grows while the distance is large. -/
def scaled (distance bias : Nat) : Nat × Nat :=
  if distance ≤ 455 then (distance, bias) else scaled (distance / 35) (bias + 36)
termination_by distance

/-- The next bias follows from the last distance and the number of characters written. -/
def adapt (distance written : Nat) (isFirst : Bool) : Nat :=
  let damped := if isFirst then distance / 700 else distance / 2
  let (rest, bias) := scaled (damped + damped / written) 0
  bias + 36 * rest / (rest + 38)

/-- The encoder has written some characters and counts the distance to the next one. -/
structure State where
  output : List Char
  distance : Nat
  bias : Nat
  written : Nat
  isFirst : Bool

/-- A smaller character lies between the last one written and the next. -/
def State.pass (code : Nat) (state : State) (c : Char) : State :=
  if c.toNat < code then { state with distance := state.distance + 1 }
  else if c.toNat = code then
    { output := state.output ++ digits state.bias 36 state.distance
      distance := 0
      bias := adapt state.distance (state.written + 1) state.isFirst
      written := state.written + 1
      isFirst := false }
  else state

/-- The codes are written in ascending order. -/
def writeCodes (label : List Char) : Nat → List Nat → State → State
  | _, [], state => state
  | previous, code :: codes, state =>
    let skipped :=
      { state with distance := state.distance + (code - previous) * (state.written + 1) }
    let passed := label.foldl (State.pass code) skipped
    writeCodes label (code + 1) codes { passed with distance := passed.distance + 1 }

/-- The ASCII characters come first, and a dash separates them from the rest. -/
def encode (label : List Char) : List Char :=
  let basic := label.filter fun c => c.toNat < 0x80
  let others := (label.filter fun c => 0x80 ≤ c.toNat).map Char.toNat
  let codes := (others.mergeSort fun first second => first ≤ second).eraseDups
  let state := writeCodes label 0x80 codes ⟨[], 0, 72, basic.length, true⟩
  basic ++ (if basic = [] then [] else ['-']) ++ state.output

def digitValue? (c : Char) : Option Nat :=
  if 'a' ≤ c ∧ c ≤ 'z' then some (c.toNat - 'a'.toNat)
  else (Text.digit? c).map (· + 26)

/-- A reader has put some characters in their places and is within the number that tells how far
the next one lies behind the last place. -/
structure Reader where
  output : List Char
  code : Nat
  place : Nat
  bias : Nat
  distance : Nat
  weight : Nat
  position : Nat

namespace Reader

/-- The first number starts at the first code outside ASCII. -/
def start (basic : List Char) : Reader :=
  ⟨basic, 0x80, 0, 72, 0, 1, 36⟩

/-- The places of one code are passed before those of the next. -/
def insert? (reader : Reader) : Option Reader := do
  let size := reader.output.length + 1
  let reached := reader.place + reader.distance
  let code := reader.code + reached / size
  return {
    output := reader.output.insertIdx (reached % size) (← Text.character? code)
    code := code
    place := reached % size + 1
    bias := adapt reader.distance size (reader.place == 0)
    distance := 0
    weight := 1
    position := 36 }

def readDigit? (reader : Reader) (c : Char) : Option Reader := do
  let digit ← digitValue? c
  let least := threshold reader.position reader.bias
  let longer := { reader with distance := reader.distance + digit * reader.weight }
  if digit < least then longer.insert?
  else
    return { longer with
      weight := reader.weight * (36 - least)
      position := reader.position + 36 }

/-- The last number must be finished. -/
def finish? (reader : Reader) : Option (List Char) :=
  if reader.position = 36 then some reader.output else none

end Reader

/-- The ASCII characters stand in front of the last dash. -/
def decode? (text : List Char) : Option (List Char) := do
  let (basic, digits) := (Text.cutLast? '-' text).getD ([], text)
  if digits.length + 1 = text.length then none
  (← digits.foldlM Reader.readDigit? (Reader.start basic)).finish?

end Scaledown.Url.Punycode
