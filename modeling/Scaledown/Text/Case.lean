/-
This file compares texts without regard to the case of ASCII letters.
-/

import Scaledown.Text.Split

namespace Scaledown.Text

/-- This function maps the ASCII capitals to small letters and keeps all else. -/
def lower (text : List Char) : List Char :=
  text.map Char.toLower

/-- Two texts agree when they differ in the case of ASCII letters only. -/
def sameLetters (first second : List Char) : Bool :=
  lower first == lower second

/-- A text contains a piece that stands somewhere in it. -/
def contains (piece text : List Char) : Bool :=
  (cutFirst? piece text).isSome

end Scaledown.Text
