/-
This file reads the quoted texts of TOML.
-/

import Scaledown.Toml.Scan

namespace Scaledown.Toml

/-- This function gives the character of an escape of one letter. -/
def shortEscape? : Char → Option Char
  | 'b' => some '\x08'
  | 't' => some '\t'
  | 'n' => some '\n'
  | 'f' => some '\x0c'
  | 'r' => some '\r'
  | '"' => some '"'
  | '\\' => some '\\'
  | _ => none

def escapedCharacter? (digits : List Char) : Option Char := do
  Text.character? (← Text.hexValue? digits)

/-- An escape names a character by a letter or by four or eight digits. -/
def escape? : List Char → Option (Char × List Char)
  | 'u' :: a :: b :: c :: d :: rest => do
    return (← escapedCharacter? [a, b, c, d], rest)
  | 'U' :: a :: b :: c :: d :: e :: f :: g :: h :: rest => do
    return (← escapedCharacter? [a, b, c, d, e, f, g, h], rest)
  | c :: rest => do return (← shortEscape? c, rest)
  | [] => none

/-- The line end after a backslash and all blanks and line ends after it are dropped. -/
def joinedLines? (text : List Char) : Option (List Char) :=
  let isGap := fun c => isLineBlank c || c == '\n'
  match text.dropWhile isLineBlank with
  | '\n' :: rest => some (rest.dropWhile isGap)
  | _ => none

/-- This function reads a text in double quotes up to its end, on one line. -/
def basicWithin : Nat → Scan (List Char)
  | 0, _ => none
  | _ + 1, [] => none
  | _ + 1, '"' :: rest => some ([], rest)
  | steps + 1, '\\' :: rest => do
    let (c, rest) ← escape? rest
    let (content, rest) ← basicWithin steps rest
    return (c :: content, rest)
  | steps + 1, c :: rest =>
    if isPlain c then do
      let (content, rest) ← basicWithin steps rest
      return (c :: content, rest)
    else none

/-- Up to two quotes before the closing three belong to the text. -/
def closing? (quote : Char) : List Char → Option (List Char × List Char)
  | a :: b :: c :: rest =>
    if a = quote ∧ b = quote ∧ c = quote then
      match rest with
      | d :: e :: rest =>
        if d = quote ∧ e = quote then some ([quote, quote], rest)
        else if d = quote then some ([quote], e :: rest)
        else some ([], d :: e :: rest)
      | [d] => if d = quote then some ([quote], []) else some ([], [d])
      | [] => some ([], [])
    else none
  | _ => none

/-- This function reads a text in three double quotes up to its end. -/
def longBasicWithin : Nat → Scan (List Char)
  | 0, _ => none
  | _ + 1, [] => none
  | steps + 1, c :: rest =>
    match closing? '"' (c :: rest) with
    | some ended => some ended
    | none =>
      if c = '\\' then
        match joinedLines? rest with
        | some rest => longBasicWithin steps rest
        | none => do
          let (escaped, rest) ← escape? rest
          let (content, rest) ← longBasicWithin steps rest
          return (escaped :: content, rest)
      else if isPlain c || c == '\n' then do
        let (content, rest) ← longBasicWithin steps rest
        return (c :: content, rest)
      else none

/-- This function reads a text in single quotes up to its end, on one line. -/
def literal? : Scan (List Char)
  | [] => none
  | c :: rest =>
    if c = '\'' then some ([], rest)
    else if isPlain c then do
      let (content, rest) ← literal? rest
      return (c :: content, rest)
    else none

/-- This function reads a text in three single quotes up to its end. -/
def longLiteral? : Scan (List Char)
  | [] => none
  | c :: rest =>
    match closing? '\'' (c :: rest) with
    | some ended => some ended
    | none =>
      if isPlain c || c == '\n' then do
        let (content, rest) ← longLiteral? rest
        return (c :: content, rest)
      else none

/-- A line end directly after the opening quotes is dropped. -/
def dropFirstNewline : List Char → List Char
  | '\n' :: rest => rest
  | text => text

/-- A quoted text on one line may also be a key. -/
def shortQuoted : Scan (List Char)
  | '"' :: rest => basicWithin (rest.length + 1) rest
  | '\'' :: rest => literal? rest
  | _ => none

/-- A quoted text opens with one quote or with three. -/
def quoted : Scan (List Char)
  | '"' :: '"' :: '"' :: rest => longBasicWithin (rest.length + 1) (dropFirstNewline rest)
  | '\'' :: '\'' :: '\'' :: rest => longLiteral? (dropFirstNewline rest)
  | text => shortQuoted text

end Scaledown.Toml
