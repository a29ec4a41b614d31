/-
This file checks the labels of domains and writes them in ASCII.
-/

import Scaledown.Text.Case
import Scaledown.Text.Composition
import Scaledown.Text.Direction
import Scaledown.Text.Joining
import Scaledown.Text.Mark
import Scaledown.Url.Domain.Mapping
import Scaledown.Url.Punycode

namespace Scaledown.Url.Domain

open Text

def isAscii (text : List Char) : Bool :=
  text.all fun c => c.toNat < 0x80

/-- In the normal form of a text all characters are replaced and composed. -/
def normalForm? (text : List Char) : Option (List Char) := do
  let replaced := (← text.mapM mapped?).flatten
  return if isAscii replaced then replaced else compose replaced

/-- These ASCII characters cannot stand in a domain. -/
def isDenied (c : Char) : Bool :=
  c.toNat ≤ 0x20 || c.toNat == 0x7F || "%#/:<>?@[\\]^|".toList.contains c

/-- A text joins the letter after it when its last letter does. -/
def endsJoining (reversed : List Char) : Bool :=
  (reversed.dropWhile isTransparent).head?.any joinsNext

def startsJoining (text : List Char) : Bool :=
  (text.dropWhile isTransparent).head?.any joinsPrevious

/-- A joiner stands after a sign that takes a vowel, and one that keeps letters apart may also
stand between letters that would join. -/
def joinersFit : List Char → List Char → Bool
  | _, [] => true
  | reversed, c :: rest =>
    (!isJoiner c || reversed.head?.any isVirama ||
      (c == '\u200c' && endsJoining reversed && startsJoining rest)) &&
      joinersFit (c :: reversed) rest

/-- A label does not start with a mark. -/
def isLabel (label : List Char) : Bool :=
  !label.any isDenied && !label.head?.any isMark && joinersFit [] label

/-- This start tells that the rest of a label stands for letters outside ASCII. -/
def encodedStart : List Char := "xn--".toList

/-- Longer labels are neither encoded nor decoded. -/
def encodingLimit : Nat := 1000

def decodingLimit : Nat := 2000

/-- An encoded label must be needed, and it stands for a label in normal form. -/
def decodeLabel? (encoded : List Char) : Option (List Char) := do
  if decodingLimit < encoded.length ∨ encoded.getLast? = some '-' ∨ !isAscii encoded then none
  let label ← Punycode.decode? encoded
  if isAscii label ∨ normalForm? label ≠ some label then none
  return label

/-- This function gives the label that a text in normal form stands for. -/
def label? (text : List Char) : Option (List Char) := do
  let label ← match dropStart? encodedStart text with
    | some encoded => decodeLabel? encoded
    | none => some text
  if isLabel label then some label else none

def asciiLabel? (label : List Char) : Option (List Char) :=
  if isAscii label then some label
  else if encodingLimit < label.length then none
  else some (encodedStart ++ Punycode.encode label)

/-- The direction of a label is that of its first letter. Its last letter or number has the same
direction, and no letter has the other one. A label from right to left has numbers of one kind. -/
def followsDirection (label : List Char) : Bool :=
  match label.map direction with
  | [] => true
  | first :: others =>
    match first, others.reverse.dropWhile (· == .mark) with
    | .leftToRight, [] => true
    | .rightToLeft, [] => true
    | .leftToRight, final :: between =>
      [.leftToRight, .europeanNumber].contains final &&
        !between.any [.rightToLeft, .arabicNumber].contains
    | .rightToLeft, final :: between =>
      [.rightToLeft, .europeanNumber, .arabicNumber].contains final &&
        !between.contains .leftToRight &&
        !(others.contains .europeanNumber && others.contains .arabicNumber)
    | _, _ => false

/-- Some characters make the directions of a whole domain matter. -/
def turns (label : List Char) : Bool :=
  label.any fun c => [.rightToLeft, .arabicNumber].contains (direction c)

end Scaledown.Url.Domain
