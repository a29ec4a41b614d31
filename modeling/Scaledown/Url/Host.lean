/-
This file brings the hosts of addresses into their normal form.
-/

import Scaledown.Text.Decimal
import Scaledown.Url.Domain
import Scaledown.Url.Escape

namespace Scaledown.Url

/-- These characters would end a host or change its meaning. -/
def isForbidden (c : Char) : Bool :=
  "\x00\t\n\r #/:<>?@[\\]^|".toList.contains c

/-- A number may be written in decimal, octal or hexadecimal digits. -/
def ipv4Number? (text : List Char) : Option Nat :=
  match text with
  | [] => none
  | '0' :: 'x' :: digits => Text.hexValue? digits
  | '0' :: digits =>
    digits.foldlM (fun value c => do
      let digit ← Text.digit? c
      if digit < 8 then some (value * 8 + digit) else none) 0
  | digits => digits.foldlM (fun value c => (Text.digit? c).map (value * 10 + ·)) 0

/-- A dot at the end of a domain adds no part. -/
def domainParts (domain : List Char) : List (List Char) :=
  let parts := Text.cutAll ['.'] domain
  if 1 < parts.length ∧ parts.getLast? = some [] then parts.dropLast else parts

/-- A domain whose last part is a number must be an address of four bytes. -/
def endsInNumber (domain : List Char) : Bool :=
  match (domainParts domain).getLast? with
  | none => false
  | some part => (part != [] && part.all Char.isDigit) || (ipv4Number? part).isSome

/-- Every number but the last stands for one byte, and the last one fills the rest. -/
def ipv4Value? : Nat → List Nat → Option Nat
  | _, [] => none
  | room, [last] => if last < Nat.pow 256 room then some last else none
  | room, first :: rest =>
    if first < 256 then
      (ipv4Value? (room - 1) rest).map (first * Nat.pow 256 (room - 1) + ·)
    else none

def ipv4? (domain : List Char) : Option String := do
  let parts := domainParts domain
  let numbers ← if parts.length ≤ 4 then parts.mapM ipv4Number? else none
  let value ← ipv4Value? 4 numbers
  let bytes := [value / 16777216, value / 65536 % 256, value / 256 % 256, value % 256]
  return String.intercalate "." (bytes.map Nat.repr)

/-- A byte has at most three digits and no leading zero. -/
def plainByte? (text : List Char) : Option Nat :=
  if text = [] ∨ (text.head? = some '0' ∧ text ≠ ['0']) then none
  else (Text.digitsAfter 255 0 text).toOption

/-- A piece is a number of four hexadecimal digits, and the last one may be four bytes. -/
def ipv6Piece? (isLast : Bool) (piece : List Char) : Option (List Nat) :=
  if piece.contains '.' then do
    if !isLast then none
    match ← (Text.cutAll ['.'] piece).mapM plainByte? with
    | [first, second, third, fourth] => some [first * 256 + second, third * 256 + fourth]
    | _ => none
  else if piece = [] ∨ 4 < piece.length then none
  else (Text.hexValue? piece).map fun value => [value]

def ipv6Pieces? : List (List Char) → Option (List Nat)
  | [] => some []
  | piece :: pieces => do
    return (← ipv6Piece? pieces.isEmpty piece) ++ (← ipv6Pieces? pieces)

def ipv6Side? (isLast : Bool) (side : List Char) : Option (List Nat) :=
  if side = [] then some []
  else if !isLast && side.contains '.' then none
  else ipv6Pieces? (Text.cutAll [':'] side)

/-- Two colons stand for at least one piece of zeros. -/
def ipv6? (text : List Char) : Option (List Nat) :=
  match Text.cutFirst? "::".toList text with
  | some (left, right) => do
    let front ← ipv6Side? false left
    let back ← ipv6Side? true right
    if front.length + back.length ≤ 7 then
      some (front ++ List.replicate (8 - front.length - back.length) 0 ++ back)
    else none
  | none => do
    let pieces ← ipv6Side? true text
    if pieces.length = 8 then some pieces else none

/-- This function gives the length of the row of zeros in front. -/
def zeros (pieces : List Nat) : Nat :=
  (pieces.takeWhile (· == 0)).length

/-- The first of the longest rows of zeros is left out, unless it is a single zero. -/
def longestZeros (pieces : List Nat) : Option (Nat × Nat) :=
  let rows := (List.range pieces.length).map fun start => (start, zeros (pieces.drop start))
  rows.foldl (fun best row =>
    let size := match best with
      | some (_, size) => size
      | none => 1
    if size < row.2 then some row else best) none

def hexText (piece : Nat) : String :=
  String.ofList (Nat.toDigits 16 piece)

def joined (pieces : List Nat) : String :=
  String.intercalate ":" (pieces.map hexText)

def ipv6Text (pieces : List Nat) : String :=
  match longestZeros pieces with
  | some (start, size) =>
    "[" ++ joined (pieces.take start) ++ "::" ++ joined (pieces.drop (start + size)) ++ "]"
  | none => "[" ++ joined pieces ++ "]"

/-- A domain may be written with percent escapes. -/
def domain? (text : List Char) : Option String := do
  let decoded ← Text.ofBytes? (Text.percentDecode text)
  let domain ← Domain.ascii? decoded.toList
  if domain = [] then none
  else if endsInNumber domain then ipv4? domain
  else some (String.ofList domain)

/-- Hosts of other schemes keep their case and their escapes. -/
def plainHost? (text : List Char) : Option String :=
  if text.any isForbidden then none
  else some (String.ofList (Text.percentEncode isPlain text))

/-- Brackets hold an address of sixteen bytes. -/
def host? (special : Bool) (text : List Char) : Option String :=
  match Text.dropStart? ['['] text with
  | some inner => do ipv6Text <$> ipv6? (← Text.dropEnd? [']'] inner)
  | none => if special then domain? text else plainHost? text

end Scaledown.Url
