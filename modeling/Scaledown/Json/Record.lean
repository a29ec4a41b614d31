/-
This file reads records with known fields from JSON values.
-/

import Scaledown.Json.Reader

namespace Scaledown.Json

/-- A record is written as an object, or as the row of its fields in order. -/
structure Record where
  inOrder : Bool
  fields : List (String × Json)

/-- The members with other names are dropped. -/
def knownMembers (names : List String) : List (JsonText × Json) → Option (List (String × Json))
  | [] => some []
  | (none, _) :: _ => none
  | (some key, value) :: members =>
    (knownMembers names members).map fun known =>
      if key ∈ names then (key, value) :: known else known

/-- An object names no known field twice, and a row has no surplus items. -/
def record? (names : List String) : Json → Option Record
  | .object members => do
    let fields ← knownMembers names members
    if (fields.map Prod.fst).Nodup then some ⟨false, fields⟩ else none
  | .array items =>
    if items.length ≤ names.length then some ⟨true, names.zip items⟩ else none
  | _ => none

namespace Record

def find? (record : Record) (name : String) : Option Json :=
  record.fields.lookup name

/-- A required field must be present. -/
def required {α : Type} (record : Record) (name : String) (read : Json → Option α) : Option α := do
  read (← record.find? name)

/-- A field with a default may be missing. -/
def withDefault {α : Type} (record : Record) (name : String) (missing : α)
    (read : Json → Option α) : Option α :=
  match record.find? name with
  | none => some missing
  | some value => read value

/-- An optional field may be missing from an object, but not from a row. -/
def optional {α : Type} (record : Record) (name : String) (read : Json → Option α) :
    Option (Option α) :=
  match record.find? name with
  | none => if record.inOrder then none else some none
  | some .null => some none
  | some value => (read value).map some

end Record

def text? : Json → Option String
  | .string value => value
  | _ => none

/-- The null value stands for a missing one. -/
def optional? {α : Type} (read : Json → Option α) : Json → Option (Option α)
  | .null => some none
  | value => (read value).map some

def array? {α : Type} (read : Json → Option α) : Json → Option (List α)
  | .array items => items.mapM read
  | _ => none

/-- This function reads a whole number of sixty-four bits, without sign, fraction or exponent. -/
def word64? : Json → Option Nat
  | .number spelling =>
    if spelling.toList.all Char.isDigit then
      (Text.digitsAfter Text.maxWord64 0 spelling.toList).toOption
    else none
  | _ => none

/-- A plain name is written as a string, or as the only key of an object with a null value. -/
def name? : Json → Option String
  | .string value => value
  | .object [(some name, .null)] => some name
  | _ => none

end Scaledown.Json
