/-
This file writes texts as UTF-8 and reads bytes as UTF-8.
-/

namespace Scaledown.Text

/-- Each character is written in one to four bytes. -/
def toBytes (text : String) : List UInt8 :=
  text.toList.flatMap String.utf8EncodeChar

/-- An unfinished character waits for more bytes, the next of them in a range. -/
structure Unfinished where
  missing : Nat
  code : Nat
  low : Nat
  high : Nat
  deriving DecidableEq, Repr

/-- A decoded piece is a character or one longest invalid row of bytes. -/
abbrev Piece := Option Char

/-- The first byte of a character tells its length and the range of its second byte. -/
def startByte (byte : UInt8) : List Piece × Option Unfinished :=
  let b := byte.toNat
  if b < 0x80 then ([some (Char.ofNat b)], none)
  else if b < 0xC2 then ([none], none)
  else if b < 0xE0 then ([], some ⟨1, b - 0xC0, 0x80, 0xBF⟩)
  else if b = 0xE0 then ([], some ⟨2, 0, 0xA0, 0xBF⟩)
  else if b = 0xED then ([], some ⟨2, 0xD, 0x80, 0x9F⟩)
  else if b < 0xF0 then ([], some ⟨2, b - 0xE0, 0x80, 0xBF⟩)
  else if b = 0xF0 then ([], some ⟨3, 0, 0x90, 0xBF⟩)
  else if b < 0xF4 then ([], some ⟨3, b - 0xF0, 0x80, 0xBF⟩)
  else if b = 0xF4 then ([], some ⟨3, 4, 0x80, 0x8F⟩)
  else ([none], none)

/-- A byte outside the range ends the invalid row before it. -/
def nextByte (pending : Option Unfinished) (byte : UInt8) : List Piece × Option Unfinished :=
  match pending with
  | none => startByte byte
  | some unfinished =>
    let b := byte.toNat
    if unfinished.low ≤ b ∧ b ≤ unfinished.high then
      let code := unfinished.code * 64 + (b - 0x80)
      if unfinished.missing ≤ 1 then ([some (Char.ofNat code)], none)
      else ([], some ⟨unfinished.missing - 1, code, 0x80, 0xBF⟩)
    else
      let (pieces, next) := startByte byte
      (none :: pieces, next)

def piecesAfter : Option Unfinished → List UInt8 → List Piece
  | none, [] => []
  | some _, [] => [none]
  | pending, byte :: bytes =>
    let (pieces, next) := nextByte pending byte
    pieces ++ piecesAfter next bytes

def pieces (bytes : List UInt8) : List Piece :=
  piecesAfter none bytes

/-- Each invalid row becomes one replacement character. -/
def ofBytesLossy (bytes : List UInt8) : String :=
  String.ofList ((pieces bytes).map fun piece => piece.getD '\ufffd')

/-- Invalid bytes are refused. -/
def ofBytes? (bytes : List UInt8) : Option String :=
  ((pieces bytes).mapM id).map String.ofList

end Scaledown.Text
