/-
This file reads whole TOML documents.
-/

import Scaledown.Toml.Number
import Scaledown.Toml.Quoted

namespace Scaledown.Toml

def simpleKey : Scan String := do
  let content ← shortQuoted <|> Scan.nonemptyRow isKeyChar
  pure (String.ofList content)

/-- This step reads the keys after a dot. -/
def keysAfter : Nat → Scan (List String)
  | 0 => failure
  | steps + 1 => do
    Scan.blanks
    let key ← simpleKey
    Scan.blanks
    if ← Scan.isNext '.' then
      Scan.exactly '.'
      return key :: (← keysAfter steps)
    else return [key]

/-- A path has fewer keys than the depth limit. -/
def path : Scan (List String) :=
  keysAfter (depthLimit - 1)

/-- Blanks, line ends and comments may stand between the items of an array. -/
def gap : Nat → Scan Unit
  | 0 => pure ()
  | steps + 1 => do
    Scan.blanks
    match ← Scan.peek with
    | some '#' =>
      Scan.comment
      Scan.newline
      gap steps
    | some '\n' =>
      Scan.newline
      gap steps
    | _ => pure ()

def gaps : Scan Unit := do
  gap ((← get).length)

def word (spelling : String) (value : Toml) : Scan Toml := do
  Scan.word spelling.toList
  pure value

/-- These values hold no other values. -/
def plainValue : Scan Toml :=
  (do return .string (String.ofList (← quoted))) <|> word "true" (.boolean true) <|>
    word "false" (.boolean false) <|> dateLiteral <|> fractionalLiteral <|>
    integerLiteral

mutual

/-- Each array and inline table adds one to the depth of its items. -/
def value (depth : Nat) : Nat → Scan Toml
  | 0 => failure
  | steps + 1 => do
    match ← Scan.peek with
    | some '[' =>
      if depthLimit ≤ depth + 1 then failure
      Scan.exactly '['
      return .array (← arrayItems (depth + 1) steps)
    | some '\x7b' =>
      if depthLimit ≤ depth + 1 then failure
      Scan.exactly '\x7b'
      Scan.blanks
      if ← Scan.isNext '\x7d' then
        Scan.exactly '\x7d'
        return emptyTable .inline
      else
        let pairs ← inlinePairs (depth + 1) steps
        match ofPairs? pairs with
        | some whole => return whole
        | none => failure
    | _ => plainValue

/-- A comma may follow the last item of an array. -/
def arrayItems (depth : Nat) : Nat → Scan (List Toml)
  | 0 => failure
  | steps + 1 => do
    gaps
    if ← Scan.isNext ']' then
      Scan.exactly ']'
      return []
    let item ← value depth steps
    gaps
    if ← Scan.isNext ',' then
      Scan.exactly ','
      return item :: (← arrayItems depth steps)
    else
      Scan.exactly ']'
      return [item]

/-- An inline table stands on one line and has no comma after its last pair. -/
def inlinePairs (depth : Nat) : Nat → Scan (List (List String × Toml))
  | 0 => failure
  | steps + 1 => do
    let keys ← path
    Scan.exactly '='
    Scan.blanks
    let content ← value depth steps
    Scan.blanks
    if ← Scan.isNext ',' then
      Scan.exactly ','
      return (keys, content) :: (← inlinePairs depth steps)
    else
      Scan.exactly '\x7d'
      return [(keys, content)]

end

/-- A document is a row of statements. -/
inductive Statement where
  | pair (path : List String) (value : Toml)
  | header (path : List String)
  | elementHeader (path : List String)

def elementHeader : Scan Statement := do
  Scan.word ['[', '[']
  let keys ← path
  Scan.word [']', ']']
  return .elementHeader keys

def header : Scan Statement := do
  Scan.exactly '['
  let keys ← path
  Scan.exactly ']'
  return .header keys

def pair : Scan Statement := do
  let keys ← path
  Scan.exactly '='
  Scan.blanks
  return .pair keys (← value 0 (2 * (← get).length + 2))

def statement : Scan Statement := do
  let read ← elementHeader <|> header <|> pair
  Scan.lineRest
  return read

/-- Empty lines and comments stand between the statements. -/
def statements : Nat → Scan (List Statement)
  | 0 => failure
  | steps + 1 => do
    Scan.blanks
    match ← Scan.peek with
    | none => return []
    | some '#' =>
      Scan.lineRest
      statements steps
    | some '\n' =>
      Scan.newline
      statements steps
    | some _ =>
      let first ← statement
      return first :: (← statements steps)

/-- The current section receives the pairs up to the next header. -/
structure Draft where
  current : List String
  root : Toml

def Draft.add (draft : Draft) : Statement → Option Draft
  | .pair path value => do
    return { draft with root := ← addPair draft.current path value draft.root }
  | .header path => do
    let key ← path.getLast?
    return ⟨path, ← descend false (addTable key) path.dropLast draft.root⟩
  | .elementHeader path => do
    let key ← path.getLast?
    return ⟨path, ← descend false (addElement key) path.dropLast draft.root⟩

/-- A carriage return is allowed before a line feed only, and both together end a line. -/
def unifyLineEnds : List Char → Option (List Char)
  | [] => some []
  | '\r' :: '\n' :: rest => (unifyLineEnds rest).map ('\n' :: ·)
  | c :: rest => if c = '\r' then none else (unifyLineEnds rest).map (c :: ·)

def dropByteOrderMark : List Char → List Char
  | '\ufeff' :: rest => rest
  | text => text

/-- This function reads a document as its root table. -/
def ofText? (text : String) : Option Toml := do
  let unified ← unifyLineEnds (dropByteOrderMark text.toList)
  let (read, rest) ← statements (unified.length + 1) unified
  if rest = [] then
    return (← read.foldlM Draft.add ⟨[], emptyTable .header⟩).root
  else none

end Scaledown.Toml
