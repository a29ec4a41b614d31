/-
This file holds the steps that read TOML from the front of a text.
-/

import Scaledown.Text.Hex

namespace Scaledown.Toml

/-- A step takes characters from the front of the text or fails. -/
abbrev Scan := StateT (List Char) Option

/-- Nesting and dotted keys are refused at this depth. -/
def depthLimit : Nat := 80

/-- Spaces and tabs are blanks inside a line. -/
def isLineBlank (c : Char) : Bool :=
  c == ' ' || c == '\t'

/-- Bare keys consist of ASCII letters, digits, dashes and underscores. -/
def isKeyChar (c : Char) : Bool :=
  c.isAlphanum || c == '-' || c == '_'

/-- Comments and quoted texts hold tabs and all characters but the other controls. -/
def isPlain (c : Char) : Bool :=
  c == '\t' || (0x20 ≤ c.toNat && c.toNat != 0x7F)

namespace Scan

def peek : Scan (Option Char) := fun text => some (text.head?, text)

def isNext (c : Char) : Scan Bool := fun text => some (text.head? == some c, text)

def atEnd : Scan Bool := fun text => some (text.isEmpty, text)

/-- This step takes one character that satisfies the test. -/
def one (test : Char → Bool) : Scan Char
  | c :: text => if test c then some (c, text) else none
  | [] => none

def exactly (c : Char) : Scan Unit := do
  let _ ← one (· == c)

def word : List Char → Scan Unit
  | [] => pure ()
  | c :: rest => do
    exactly c
    word rest

/-- This step takes the longest row of characters that satisfy the test. -/
def row (test : Char → Bool) : Scan (List Char) := fun text =>
  some (text.takeWhile test, text.dropWhile test)

def nonemptyRow (test : Char → Bool) : Scan (List Char) := do
  let taken ← row test
  if taken = [] then failure else pure taken

/-- This step takes exactly so many digits. -/
def number : Nat → Scan Nat
  | 0 => pure 0
  | count + 1 => do
    let higher ← number count
    let digit ← one Char.isDigit
    pure (higher * 10 + (digit.toNat - '0'.toNat))

def optional {α : Type} (step : Scan α) : Scan (Option α) :=
  (some <$> step) <|> pure none

/-- This step takes the blanks inside a line. -/
def blanks : Scan Unit := do
  let _ ← row isLineBlank

/-- A line ends with a line feed, with or without a carriage return before it. -/
def newline : Scan Unit :=
  exactly '\n' <|> word ['\r', '\n']

def comment : Scan Unit := do
  exactly '#'
  let _ ← row isPlain

/-- The rest of a line holds blanks and a comment at most, and the last line needs no end. -/
def lineRest : Scan Unit := do
  blanks
  let _ ← optional comment
  if ← atEnd then pure () else newline

end Scan

end Scaledown.Toml
