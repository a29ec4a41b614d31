/-
This file reads records with known fields from TOML values.
-/

import Scaledown.Toml.Value

namespace Scaledown.Toml

/-- A record is written as a table, or as the row of its fields in order. A date has no known
field, and surplus items of a row are dropped. -/
def record? (names : List String) : Toml → Option (List (String × Toml))
  | .table _ entries => some entries
  | .array items => some (names.zip items)
  | .tables elements => some (names.zip elements)
  | .date _ => some []
  | _ => none

/-- A missing field takes the given value. -/
def fieldOr {α : Type} (record : List (String × Toml)) (name : String) (missing : α)
    (read : Toml → Option α) : Option α :=
  match record.lookup name with
  | none => some missing
  | some found => read found

def requiredField {α : Type} (record : List (String × Toml)) (name : String)
    (read : Toml → Option α) : Option α := do
  read (← record.lookup name)

def text? : Toml → Option String
  | .string content => some content
  | _ => none

def flag? : Toml → Option Bool
  | .boolean content => some content
  | _ => none

/-- A count is an integer without a minus. -/
def count? : Toml → Option Nat
  | .integer number => if 0 ≤ number then some number.toNat else none
  | _ => none

def items? {α : Type} (read : Toml → Option α) : Toml → Option (List α)
  | .array items => items.mapM read
  | .tables elements => elements.mapM read
  | _ => none

/-- The entries of a table are read one by one. -/
def entries? {α : Type} (read : Toml → Option α) : Toml → Option (List (String × α))
  | .table _ entries => entries.mapM fun entry => (read entry.2).map (entry.1, ·)
  | _ => none

end Scaledown.Toml
