/-
This file holds tables of characters that are written as ranges of codes.
-/

import Scaledown.Text.Hex
import Scaledown.Text.Split

namespace Scaledown.Text

/-- A character lies in a table when one of its ranges contains it. -/
def inRanges (ranges : List (Nat × Nat)) (c : Char) : Bool :=
  ranges.any fun range => range.1 ≤ c.toNat && c.toNat ≤ range.2

/-- A range is written as its first and its last code, and a single code stands for itself. -/
def codeRange? (word : List Char) : Option (Nat × Nat) := do
  let (first, last) := (cutFirst? ['-'] word).getD (word, word)
  return (← hexValue? first, ← hexValue? last)

/-- This function reads the hexadecimal codes of ranges with blanks in between. -/
def codeRanges (text : String) : List (Nat × Nat) :=
  (words text.toList).filterMap codeRange?

/-- A row gives the same values to the codes of a range, or to every second one of them. -/
structure CodeRow where
  first : Nat
  last : Nat
  step : Nat
  values : List Nat
  deriving DecidableEq, Repr

namespace CodeRow

def covers (row : CodeRow) (c : Char) : Bool :=
  row.first ≤ c.toNat && c.toNat ≤ row.last && (c.toNat - row.first) % row.step == 0

/-- A row is written as a range, perhaps a slash and a step, a colon and values with commas in
between. -/
def ofWord? (word : List Char) : Option CodeRow := do
  let (keys, valueText) ← cutFirst? [':'] word
  let (rangeText, stepText) := (cutFirst? ['/'] keys).getD (keys, ['1'])
  let (first, last) ← codeRange? rangeText
  return ⟨first, last, ← hexValue? stepText, ← (cutAll [','] valueText).mapM hexValue?⟩

end CodeRow

abbrev CodeTable := List CodeRow

namespace CodeTable

/-- This function reads rows with blanks in between. -/
def ofText (text : String) : CodeTable :=
  (words text.toList).filterMap CodeRow.ofWord?

def row? (table : CodeTable) (c : Char) : Option CodeRow :=
  table.find? fun row => row.covers c

/-- The values of a row belong to its first code and grow with the codes after it. -/
def shifted? (table : CodeTable) (c : Char) : Option (List Char) :=
  (table.row? c).map fun row =>
    row.values.map fun value => Char.ofNat (value + (c.toNat - row.first))

end CodeTable

end Scaledown.Text
