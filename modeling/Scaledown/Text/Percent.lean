/-
This file writes and reads bytes as percent escapes.
-/

import Scaledown.Text.Hex
import Scaledown.Text.Utf8

namespace Scaledown.Text

def capitalHexDigit (value : Nat) : Char :=
  (Nat.digitChar value).toUpper

/-- An escape has a percent sign and two capital hexadecimal digits. -/
def percentEscape (byte : UInt8) : List Char :=
  ['%', capitalHexDigit (byte.toNat / 16), capitalHexDigit (byte.toNat % 16)]

/-- A character that is not kept is escaped byte by byte. -/
def percentEncode (keeps : Char → Bool) (text : List Char) : List Char :=
  text.flatMap fun c =>
    if keeps c then [c] else (String.utf8EncodeChar c).flatMap percentEscape

/-- A percent sign without two hexadecimal digits stands for itself. -/
def percentDecode : List Char → List UInt8
  | [] => []
  | '%' :: high :: low :: rest =>
    match hexDigit? high, hexDigit? low with
    | some first, some second => UInt8.ofNat (first * 16 + second) :: percentDecode rest
    | _, _ => String.utf8EncodeChar '%' ++ percentDecode (high :: low :: rest)
  | c :: rest => String.utf8EncodeChar c ++ percentDecode rest

end Scaledown.Text
