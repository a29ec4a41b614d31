/-
This file reads bounded decimal numbers.
-/

namespace Scaledown.Text

/-- A text is no bounded decimal number for one of these reasons. -/
inductive DecimalFault where
  | empty
  | invalidDigit
  | tooLarge
  deriving DecidableEq, Repr

namespace DecimalFault

def message : DecimalFault → String
  | empty => "cannot parse integer from empty string"
  | invalidDigit => "invalid digit found in string"
  | tooLarge => "number too large to fit in target type"

end DecimalFault

/-- This function gives the value of an ASCII digit. -/
def digit? (c : Char) : Option Nat :=
  if '0' ≤ c ∧ c ≤ '9' then some (c.toNat - '0'.toNat) else none

/-- This function reads digits after a number and stops at the first fault. -/
def digitsAfter (limit : Nat) : Nat → List Char → Except DecimalFault Nat
  | value, [] => .ok value
  | value, c :: text =>
    match digit? c with
    | none => .error .invalidDigit
    | some digit =>
      if limit < value * 10 + digit then .error .tooLarge
      else digitsAfter limit (value * 10 + digit) text

/-- A decimal number is a nonempty row of digits, after at most one plus sign. -/
def decimal (limit : Nat) : List Char → Except DecimalFault Nat
  | [] => .error .empty
  | c :: text =>
    if c = '+' ∧ text ≠ [] then digitsAfter limit 0 text else digitsAfter limit 0 (c :: text)

/-- This is the largest number of sixty-four bits. -/
def maxWord64 : Nat := 18446744073709551615

/-- This is the largest number of sixteen bits. -/
def maxWord16 : Nat := 65535

end Scaledown.Text
