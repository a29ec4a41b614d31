/-
This file reads and writes hexadecimal digits.
-/

namespace Scaledown.Text

/-- This function gives the value of a hexadecimal digit in either case. -/
def hexDigit? (c : Char) : Option Nat :=
  if '0' ≤ c ∧ c ≤ '9' then some (c.toNat - '0'.toNat)
  else if 'a' ≤ c ∧ c ≤ 'f' then some (c.toNat - 'a'.toNat + 10)
  else if 'A' ≤ c ∧ c ≤ 'F' then some (c.toNat - 'A'.toNat + 10)
  else none

/-- The digits of a hexadecimal number start with the most significant one. -/
def hexValue? (digits : List Char) : Option Nat :=
  digits.foldlM (fun value digit => (hexDigit? digit).map (value * 16 + ·)) 0

/-- Half of a surrogate pair is no character, and neither is a number above the last one. -/
def character? (code : Nat) : Option Char :=
  if 0xD800 ≤ code ∧ code < 0xE000 ∨ 0x110000 ≤ code then none else some (Char.ofNat code)

end Scaledown.Text
