/-
This file holds the values of TOML documents and the rules for their tables.
-/

namespace Scaledown

/-- The origin of a table decides how later statements may extend it. -/
inductive TableOrigin where
  | header
  | implied
  | dotted
  | inline
  deriving DecidableEq, Repr

/-- Fractional numbers and dates keep their spelling. -/
inductive Toml where
  | string (value : String)
  | integer (value : Int)
  | fractional (spelling : String)
  | boolean (value : Bool)
  | date (spelling : String)
  | array (items : List Toml)
  | table (origin : TableOrigin) (entries : List (String × Toml))
  /-- Each double-bracket header adds one table at the end. -/
  | tables (elements : List Toml)
  deriving Inhabited

namespace Toml

def emptyTable (origin : TableOrigin) : Toml := .table origin []

/-- This function puts a value in the place of the entry of the same key. -/
def replaceEntry (key : String) (value : Toml) (entries : List (String × Toml)) :
    List (String × Toml) :=
  entries.map fun entry => if entry.1 = key then (key, value) else entry

/-- Dotted keys may pass only through tables without a header of their own. -/
def mayPass (dotted : Bool) : TableOrigin → Bool
  | .header => !dotted
  | .implied => true
  | .dotted => true
  | .inline => false

/-- This function changes the table at the end of a path, and it makes missing tables on the way. -/
def descend (dotted : Bool) (change : Toml → Option Toml) : List String → Toml → Option Toml
  | [], node => change node
  | key :: path, .table origin entries =>
    match entries.lookup key with
    | none => do
      let child ← descend dotted change path (emptyTable (if dotted then .dotted else .implied))
      return .table origin (entries ++ [(key, child)])
    | some (.tables elements) => do
      let last ← descend dotted change path (← elements.getLast?)
      return .table origin (replaceEntry key (.tables (elements.dropLast ++ [last])) entries)
    | some (.table inner content) =>
      if mayPass dotted inner then do
        let child ← descend dotted change path (.table inner content)
        return .table origin (replaceEntry key child entries)
      else none
    | some _ => none
  | _ :: _, _ => none

/-- A key is defined once, and a dotted path ends in a table made by dotted keys. -/
def addValue (direct : Bool) (key : String) (value : Toml) : Toml → Option Toml
  | .table origin entries =>
    if (origin == .dotted) == direct then none
    else match entries.lookup key with
      | none => some (.table origin (entries ++ [(key, value)]))
      | some _ => none
  | _ => none

/-- A header defines a table once, possibly after headers of its own subtables. -/
def addTable (key : String) : Toml → Option Toml
  | .table origin entries =>
    match entries.lookup key with
    | none => some (.table origin (entries ++ [(key, emptyTable .header)]))
    | some (.table .implied content) =>
      some (.table origin (replaceEntry key (.table .header content) entries))
    | some _ => none
  | _ => none

/-- A double-bracket header adds a table to an array of such tables. -/
def addElement (key : String) : Toml → Option Toml
  | .table origin entries =>
    match entries.lookup key with
    | none => some (.table origin (entries ++ [(key, .tables [emptyTable .header])]))
    | some (.tables elements) =>
      some (.table origin
        (replaceEntry key (.tables (elements ++ [emptyTable .header])) entries))
    | some _ => none
  | _ => none

/-- The path of a pair is split into its tables and its last key. -/
def addPair (section? : List String) (path : List String) (value : Toml) (root : Toml) :
    Option Toml := do
  let key ← path.getLast?
  let tables := path.dropLast
  descend false (descend true (addValue tables.isEmpty key value) tables) section? root

/-- The pairs of an inline table follow the rules of dotted keys. -/
def ofPairs? (pairs : List (List String × Toml)) : Option Toml := do
  match ← pairs.foldlM (fun root pair => addPair [] pair.1 pair.2 root) (emptyTable .header) with
  | .table _ entries => some (.table .inline entries)
  | _ => none

end Toml

end Scaledown
