/-
This file reads the numbers and dates of TOML.
-/

import Scaledown.Toml.Scan
import Scaledown.Toml.Value

namespace Scaledown.Toml

/-- Underscores may stand between digits, and they are dropped. -/
def digitsAfterFirst (isDigit : Char → Bool) : List Char → List Char × List Char
  | '_' :: c :: rest =>
    if isDigit c then
      let (digits, rest) := digitsAfterFirst isDigit rest
      (c :: digits, rest)
    else ([], '_' :: c :: rest)
  | c :: rest =>
    if isDigit c then
      let (digits, rest) := digitsAfterFirst isDigit rest
      (c :: digits, rest)
    else ([], c :: rest)
  | [] => ([], [])

def digits (isDigit : Char → Bool) : Scan (List Char) := do
  let first ← Scan.one isDigit
  let others ← fun text => some (digitsAfterFirst isDigit text)
  pure (first :: others)

def sign : Scan (Option Char) :=
  Scan.optional (Scan.one fun c => c == '+' || c == '-')

/-- A decimal number has no superfluous zero at its start. -/
def wholeDigits : Scan (List Char) := do
  if ← Scan.isNext '0' then
    Scan.exactly '0'
    pure ['0']
  else digits Char.isDigit

def decimalValue (digits : List Char) : Nat :=
  digits.foldl (fun value digit => value * 10 + (digit.toNat - '0'.toNat)) 0

/-- Integers have sixty-four bits with their sign. -/
def boundedInteger (value : Int) : Scan Toml :=
  if -9223372036854775808 ≤ value ∧ value ≤ 9223372036854775807 then pure (.integer value)
  else failure

def signedInteger : Scan Toml := do
  let mark ← sign
  let value : Int := decimalValue (← wholeDigits)
  boundedInteger (if mark = some '-' then -value else value)

def isHexDigit (c : Char) : Bool := (Text.hexDigit? c).isSome

def isOctalDigit (c : Char) : Bool := '0' ≤ c && c ≤ '7'

def isBinaryDigit (c : Char) : Bool := c == '0' || c == '1'

/-- A number in another base has a mark of its own and no sign. -/
def basedInteger (mark : Char) (base : Nat) (isDigit : Char → Bool) : Scan Toml := do
  Scan.word ['0', mark]
  let spelled ← digits isDigit
  let value := spelled.foldl
    (fun value digit => value * base + (Text.hexDigit? digit).getD 0) 0
  boundedInteger value

def integerLiteral : Scan Toml :=
  basedInteger 'x' 16 isHexDigit <|> basedInteger 'o' 8 isOctalDigit <|>
    basedInteger 'b' 2 isBinaryDigit <|> signedInteger

/-- An exponent may start with zeros. -/
def exponent : Scan (Option Char × List Char) := do
  let _ ← Scan.one fun c => c == 'e' || c == 'E'
  let mark ← sign
  return (mark, ← digits Char.isDigit)

/-- A positive number is too large from the middle between the greatest finite value and its
successor on. -/
def tooLarge (significant : List Char) (places : Nat) (power : Int) : Bool :=
  let value := decimalValue significant
  if value == 0 then false
  else
    let shift := power - places
    let size : Int := (Nat.repr value).length + shift
    if size < 300 then false
    else if 400 < size then true
    else if 0 ≤ shift then decide (Nat.pow 2 1024 - Nat.pow 2 970 ≤ value * Nat.pow 10 shift.toNat)
    else decide ((Nat.pow 2 1024 - Nat.pow 2 970) * Nat.pow 10 (-shift).toNat ≤ value)

/-- A fractional number has a fraction, an exponent or both. -/
def plainFractional : Scan Toml := do
  let mark ← sign
  let whole ← wholeDigits
  let fraction ← Scan.optional do
    Scan.exactly '.'
    digits Char.isDigit
  let power ← Scan.optional exponent
  if fraction.isNone && power.isNone then failure
  else
    let places := fraction.getD []
    let magnitude := match power with
      | some (some '-', spelled) => -(decimalValue spelled : Int)
      | some (_, spelled) => decimalValue spelled
      | none => 0
    if mark != some '-' && tooLarge (whole ++ places) places.length magnitude then failure
    else pure (.fractional (String.ofList (whole ++ '.' :: places)))

def specialFractional : Scan Toml := do
  let _ ← sign
  Scan.word "inf".toList <|> Scan.word "nan".toList
  pure (.fractional "special")

def fractionalLiteral : Scan Toml :=
  plainFractional <|> specialFractional

def isLeapYear (year : Nat) : Bool :=
  year % 4 == 0 && (year % 100 != 0 || year % 400 == 0)

def daysIn (year month : Nat) : Nat :=
  if month == 2 then (if isLeapYear year then 29 else 28)
  else if month == 4 || month == 6 || month == 9 || month == 11 then 30
  else 31

def within (low high : Nat) (step : Scan Nat) : Scan Nat := do
  let value ← step
  if low ≤ value ∧ value ≤ high then pure value else failure

def calendarDay : Scan Unit := do
  let year ← Scan.number 4
  Scan.exactly '-'
  let month ← within 1 12 (Scan.number 2)
  Scan.exactly '-'
  let _ ← within 1 (daysIn year month) (Scan.number 2)

/-- A minute may have a sixty-first second. -/
def clockTime : Scan Unit := do
  let _ ← within 0 23 (Scan.number 2)
  Scan.exactly ':'
  let _ ← within 0 59 (Scan.number 2)
  Scan.exactly ':'
  let _ ← within 0 60 (Scan.number 2)
  let _ ← Scan.optional do
    Scan.exactly '.'
    Scan.nonemptyRow Char.isDigit

def zoneOffset : Scan Unit :=
  (do let _ ← Scan.one fun c => c == 'Z' || c == 'z') <|> do
    let _ ← Scan.one fun c => c == '+' || c == '-'
    let _ ← within 0 23 (Scan.number 2)
    Scan.exactly ':'
    let _ ← within 0 59 (Scan.number 2)

/-- A date may be followed by a time, and a full time by an offset. -/
def dayAndTime : Scan Unit := do
  calendarDay
  let _ ← Scan.optional do
    let _ ← Scan.one fun c => c == 'T' || c == 't' || c == ' '
    clockTime
    Scan.optional zoneOffset

def dateLiteral : Scan Toml := do
  let before ← get
  dayAndTime <|> clockTime
  let after ← get
  pure (.date (String.ofList (before.take (before.length - after.length))))

end Scaledown.Toml
