/-
This file holds the ways in which a text is cut into pieces.
-/

import Scaledown.Text.Blank

namespace Scaledown.Text

/-- This function removes the given start from the text. -/
def dropStart? : List Char → List Char → Option (List Char)
  | [], text => some text
  | _ :: _, [] => none
  | p :: start, c :: text => if p = c then dropStart? start text else none

/-- This function removes the given end from the text. -/
def dropEnd? (final text : List Char) : Option (List Char) :=
  (dropStart? final.reverse text.reverse).map List.reverse

/-- This function cuts the text around the first occurrence of the separator. -/
def cutFirst? (separator : List Char) : List Char → Option (List Char × List Char)
  | [] => if separator = [] then some ([], []) else none
  | c :: text =>
    match dropStart? separator (c :: text) with
    | some rest => some ([], rest)
    | none => (cutFirst? separator text).map fun cut => (c :: cut.1, cut.2)

/-- This function cuts the text around the last occurrence of the character. -/
def cutLast? (separator : Char) (text : List Char) : Option (List Char × List Char) :=
  (cutFirst? [separator] text.reverse).map fun cut => (cut.2.reverse, cut.1.reverse)

theorem eq_append_of_dropStart? {start text rest : List Char}
    (found : dropStart? start text = some rest) : text = start ++ rest := by
  fun_induction dropStart? start text with
  | case1 => simp_all
  | case2 => simp at found
  | case3 start c text ih => simp [ih found]
  | case4 => simp at found

@[simp] theorem dropStart?_append (start rest : List Char) :
    dropStart? start (start ++ rest) = some rest := by
  induction start with
  | nil => cases rest <;> rfl
  | cons c start ih => simp [dropStart?, ih]

theorem eq_append_of_cutFirst? {separator text : List Char} {cut : List Char × List Char}
    (found : cutFirst? separator text = some cut) : text = cut.1 ++ separator ++ cut.2 := by
  fun_induction cutFirst? separator text generalizing cut with
  | case1 empty =>
    obtain rfl : ([], []) = cut := by simpa using found
    simp [empty]
  | case2 => simp at found
  | case3 c text rest start =>
    obtain rfl : ([], rest) = cut := by simpa using found
    simpa using eq_append_of_dropStart? start
  | case4 c text missing ih =>
    obtain ⟨inner, within, rfl⟩ := Option.map_eq_some_iff.1 found
    simp [ih within]

/-- This function cuts the text at every occurrence of the separator, from left to right. -/
def cutAll (separator text : List Char) : List (List Char) :=
  if separator = [] then [text]
  else
    match _found : cutFirst? separator text with
    | none => [text]
    | some cut => cut.1 :: cutAll separator cut.2
termination_by text.length
decreasing_by
  rename_i nonempty
  have whole := congrArg List.length (eq_append_of_cutFirst? _found)
  have positive := List.length_pos_iff.2 nonempty
  simp only [List.length_append] at whole
  omega

/-- A carriage return at the end of a line belongs to the line end. -/
def endLine : List Char → List Char
  | [] => []
  | c :: reversed => if c = '\r' then reversed.reverse else (c :: reversed).reverse

/-- This function reads lines after the reversed start of the current line. -/
def linesAfter : List Char → List Char → List (List Char)
  | [], [] => []
  | reversed, [] => [reversed.reverse]
  | reversed, c :: text =>
    if c = '\n' then endLine reversed :: linesAfter [] text else linesAfter (c :: reversed) text

/-- The lines of a text end with a line feed, with or without a carriage return before it. -/
def lines (text : List Char) : List (List Char) :=
  linesAfter [] text

/-- This function reads words after the reversed start of the current word. -/
def wordsAfter : List Char → List Char → List (List Char)
  | [], [] => []
  | reversed, [] => [reversed.reverse]
  | reversed, c :: text =>
    if isBlank c then
      if reversed = [] then wordsAfter [] text else reversed.reverse :: wordsAfter [] text
    else wordsAfter (c :: reversed) text

/-- The words of a text are its longest pieces without blanks. -/
def words (text : List Char) : List (List Char) :=
  wordsAfter [] text

end Scaledown.Text
