/-
This file shows that the pairs in the query of an address are read back.
-/

import Mathlib.Tactic
import Scaledown.Proofs.Text.Split
import Scaledown.Url.Reader

namespace Scaledown

open Text

theorem Text.hexDigit?_capitalHexDigit :
    ∀ value < 16, hexDigit? (capitalHexDigit value) = some value := by
  decide

/-- An escape is no escape of another byte. -/
theorem Text.percentDecode_percentEscape (byte : UInt8) (rest : List Char) :
    percentDecode (percentEscape byte ++ rest) = byte :: percentDecode rest := by
  have size : byte.toNat < 256 := byte.toNat_lt_size
  have high := hexDigit?_capitalHexDigit (byte.toNat / 16) (by omega)
  have low := hexDigit?_capitalHexDigit (byte.toNat % 16) (by omega)
  have whole : byte.toNat / 16 * 16 + byte.toNat % 16 = byte.toNat := by omega
  rw [percentEscape, List.cons_append, List.cons_append, List.cons_append, List.nil_append,
    percentDecode, high, low]
  simp only [whole, UInt8.ofNat_toNat]

/-- Only a percent sign starts an escape. -/
theorem Text.percentDecode_cons_of_ne {c : Char} (plain : c ≠ '%') (rest : List Char) :
    percentDecode (c :: rest) = String.utf8EncodeChar c ++ percentDecode rest := by
  rw [percentDecode]
  rintro high low others rfl
  exact absurd rfl plain

namespace Url

/-- A plus sign stands for a space, and escapes stand for bytes. -/
def readPairText (text : List Char) : List UInt8 :=
  percentDecode (text.map fun c => if c = '+' then ' ' else c)

/-- The name of a pair ends before the first equals sign. -/
def readPair (piece : List Char) : List UInt8 × List UInt8 :=
  let (name, value) := (cutFirst? ['='] piece).getD (piece, [])
  (readPairText name, readPairText value)

/-- The pairs stand between ampersands, and nothing is no pair. -/
def readPairs (query : List Char) : List (List UInt8 × List UInt8) :=
  ((cutAll ['&'] query).filter (· ≠ [])).map readPair

/-- These pairs are read from the query of an address, in order. -/
def pairs (url : Url) : List (List UInt8 × List UInt8) :=
  (url.query.map fun query => readPairs query.toList).getD []

theorem pairs_withoutCredentials (url : Url) : url.withoutCredentials.pairs = url.pairs := by
  unfold withoutCredentials
  dsimp only
  split <;> rfl

/-- The texts of a pair are told by their bytes. -/
def pairBytes (entry : String × String) : List UInt8 × List UInt8 :=
  (toBytes entry.1, toBytes entry.2)

/-- A character that is kept in a pair has no other meaning there. -/
theorem not_mem_of_keepsPair {c : Char} (kept : keepsPair c = true) :
    c ∉ ['%', '+', '&', '='] := by
  simp only [List.mem_cons, List.not_mem_nil, or_false]
  rintro (rfl | rfl | rfl | rfl) <;> exact absurd kept (by decide)

/-- The characters of an escape do not part pairs and do not stand for a space. -/
theorem not_mem_of_mem_percentEscape {byte : UInt8} {c : Char}
    (inside : c ∈ percentEscape byte) : c ∉ ['+', '&', '='] := by
  have size : byte.toNat < 256 := byte.toNat_lt_size
  have plain : ∀ value < 16, capitalHexDigit value ∉ ['+', '&', '='] := by decide
  simp only [percentEscape, List.mem_cons, List.not_mem_nil, or_false] at inside
  rcases inside with rfl | rfl | rfl
  · decide
  · exact plain _ (by omega)
  · exact plain _ (by omega)

/-- One character of a pair is written as a plus sign, as itself or as escapes. -/
theorem mem_pairText {text : String} {sign : Char} (inside : sign ∈ pairText text) :
    sign = '+' ∨ keepsPair sign = true ∨ ∃ byte, sign ∈ percentEscape byte := by
  obtain ⟨c, -, written⟩ := List.mem_flatMap.1 inside
  split at written
  · exact .inl (List.mem_singleton.1 written)
  · rw [percentEncode, List.flatMap_singleton] at written
    split at written
    · rename_i kept
      rw [List.mem_singleton.1 written]
      exact .inr (.inl kept)
    · obtain ⟨byte, -, escaped⟩ := List.mem_flatMap.1 written
      exact .inr (.inr ⟨byte, escaped⟩)

/-- The signs that part pairs stand in no written text. -/
theorem not_mem_pairText {sign : Char} (parts : sign ∈ ['&', '=']) (text : String) :
    sign ∉ pairText text := by
  intro inside
  rcases mem_pairText inside with rfl | kept | ⟨byte, escaped⟩
  · revert parts
    decide
  · exact not_mem_of_keepsPair kept (List.mem_cons_of_mem _ (List.mem_cons_of_mem _ parts))
  · exact not_mem_of_mem_percentEscape escaped (List.mem_cons_of_mem _ parts)

theorem readPairText_percentEscape (byte : UInt8) (rest : List Char) :
    readPairText (percentEscape byte ++ rest) = byte :: readPairText rest := by
  have same : (percentEscape byte).map (fun c => if c = '+' then ' ' else c) =
      percentEscape byte := by
    refine (List.map_congr_left fun c inside => if_neg ?_).trans (List.map_id' _)
    rintro rfl
    exact not_mem_of_mem_percentEscape inside (List.mem_cons_self)
  rw [readPairText, List.map_append, same, percentDecode_percentEscape, readPairText]

theorem readPairText_escapes (bytes : List UInt8) (rest : List Char) :
    readPairText (bytes.flatMap percentEscape ++ rest) = bytes ++ readPairText rest := by
  induction bytes with
  | nil => rfl
  | cons byte bytes ih =>
    rw [List.flatMap_cons, List.append_assoc, readPairText_percentEscape, ih, List.cons_append]

theorem readPairText_cons_of_keepsPair {c : Char} (kept : keepsPair c = true)
    (rest : List Char) :
    readPairText (c :: rest) = String.utf8EncodeChar c ++ readPairText rest := by
  obtain ⟨percent, others⟩ := not_or.1 (mt List.mem_cons.2 (not_mem_of_keepsPair kept))
  have plus : c ≠ '+' := (not_or.1 (mt List.mem_cons.2 others)).1
  rw [readPairText, List.map_cons, if_neg plus, percentDecode_cons_of_ne percent, readPairText]

/-- What is written for a text is read as its bytes, whatever follows it. -/
theorem readPairText_flatMap (text : List Char) (rest : List Char) :
    readPairText ((text.flatMap fun c =>
      if c = ' ' then ['+'] else percentEncode keepsPair [c]) ++ rest) =
      text.flatMap String.utf8EncodeChar ++ readPairText rest := by
  induction text with
  | nil => rfl
  | cons c text ih =>
    rw [List.flatMap_cons, List.flatMap_cons, List.append_assoc, List.append_assoc, ← ih]
    split
    · rename_i space
      subst space
      exact percentDecode_cons_of_ne (by decide) _
    · rw [percentEncode, List.flatMap_singleton]
      split
      · rename_i kept
        exact readPairText_cons_of_keepsPair kept _
      · exact readPairText_escapes _ _

theorem readPairText_pairText (text : String) : readPairText (pairText text) = toBytes text := by
  have read := readPairText_flatMap text.toList []
  have nothing : readPairText [] = [] := rfl
  rwa [List.append_nil, nothing, List.append_nil] at read

@[simp] theorem readPairs_nil : readPairs [] = [] := by
  rw [readPairs, cutAll_of_not_mem List.not_mem_nil]
  rfl

theorem readPairs_append_cons (front rest : List Char) :
    readPairs (front ++ '&' :: rest) = readPairs front ++ readPairs rest := by
  rw [readPairs, cutAll_append_cons, List.filter_append, List.map_append]
  rfl

/-- A written pair is one pair. -/
theorem readPairs_pair (entry : String × String) : readPairs (pair entry) = [pairBytes entry] := by
  have apart : '&' ∉ pair entry := by
    rw [pair, List.mem_append, List.mem_cons, not_or, not_or]
    exact ⟨not_mem_pairText (by decide) _, by decide, not_mem_pairText (by decide) _⟩
  have cut : cutFirst? ['='] (pair entry) = some (pairText entry.1, pairText entry.2) :=
    cutFirst?_singleton (not_mem_pairText (by decide) _)
  have read : readPair (pair entry) = pairBytes entry := by
    rw [readPair, cut]
    simp only [Option.getD_some, readPairText_pairText, pairBytes]
  rw [readPairs, cutAll_of_not_mem apart, List.filter_cons_of_pos (by simp [pair]), List.filter_nil,
    List.map_singleton, read]

/-- The pairs of pieces with ampersands in between are those of the pieces. -/
theorem readPairs_intercalate (pieces : List (List Char)) :
    readPairs (['&'].intercalate pieces) = pieces.flatMap readPairs := by
  induction pieces with
  | nil => exact readPairs_nil
  | cons piece pieces ih =>
    rw [List.flatMap_cons, ← ih]
    cases pieces with
    | nil => simp
    | cons next pieces =>
      rw [List.intercalate_cons_cons, List.append_assoc, List.singleton_append,
        readPairs_append_cons]

/-- The new pairs are read after those of the older query. -/
theorem pairs_withPairs (url : Url) (entries : List (String × String)) :
    (url.withPairs entries).pairs = url.pairs ++ entries.map pairBytes := by
  have added : (entries.map pair).flatMap readPairs = entries.map pairBytes := by
    induction entries with
    | nil => rfl
    | cons entry entries ih =>
      rw [List.map_cons, List.flatMap_cons, readPairs_pair, ih, List.singleton_append,
        List.map_cons]
  unfold withPairs pairs
  cases url.query with
  | none => simp [readPairs_intercalate, added]
  | some query =>
    by_cases empty : query = ""
    · simp [readPairs_intercalate, added, empty]
    · simp [readPairs_intercalate, added, empty]

end Url

end Scaledown
