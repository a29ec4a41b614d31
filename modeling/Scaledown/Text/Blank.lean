/-
This file holds the blank characters and the trimming of texts.
-/

namespace Scaledown.Text

/-- These are the characters with the Unicode property White_Space. -/
def isBlank (c : Char) : Bool :=
  let code := c.toNat
  (9 ≤ code && code ≤ 13) || code == 0x20 || code == 0x85 || code == 0xA0 || code == 0x1680 ||
    (0x2000 ≤ code && code ≤ 0x200A) || code == 0x2028 || code == 0x2029 || code == 0x202F ||
    code == 0x205F || code == 0x3000

/-- This function drops the leading characters that satisfy the test. -/
def trimStartBy (test : Char → Bool) (text : List Char) : List Char :=
  text.dropWhile test

/-- This function drops the trailing characters that satisfy the test. -/
def trimEndBy (test : Char → Bool) (text : List Char) : List Char :=
  (text.reverse.dropWhile test).reverse

/-- This function drops the characters at both ends that satisfy the test. -/
def trimBy (test : Char → Bool) (text : List Char) : List Char :=
  trimEndBy test (trimStartBy test text)

/-- This function drops the blanks at both ends. -/
def trim (text : List Char) : List Char :=
  trimBy isBlank text

/-- A text is blank when it holds blank characters only. -/
def allBlank (text : List Char) : Bool :=
  text.all isBlank

@[simp] theorem trimStartBy_nil (test : Char → Bool) : trimStartBy test [] = [] := rfl

@[simp] theorem trimEndBy_nil (test : Char → Bool) : trimEndBy test [] = [] := rfl

@[simp] theorem trim_nil : trim [] = [] := rfl

end Scaledown.Text
