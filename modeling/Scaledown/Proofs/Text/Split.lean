/-
This file shows that pieces are found again in the text that they were written to.
-/

import Mathlib.Data.List.TakeWhile
import Mathlib.Tactic
import Scaledown.Text.Case

namespace Scaledown.Text

/-- Between the space and the delete character there is no blank. -/
theorem isBlank_of_visible {c : Char} (low : 33 ≤ c.toNat) (high : c.toNat ≤ 126) :
    isBlank c = false := by
  simp only [isBlank, Bool.or_eq_false_iff, Bool.and_eq_false_iff, decide_eq_false_iff_not,
    beq_eq_false_iff_ne]
  omega

/-- No blank stands in a solid text. -/
def Solid (text : List Char) : Prop :=
  ∀ c ∈ text, isBlank c = false

instance (text : List Char) : Decidable (Solid text) :=
  List.decidableBAll _ text

theorem Solid.append {former latter : List Char} (first : Solid former) (second : Solid latter) :
    Solid (former ++ latter) :=
  List.forall_mem_append.2 ⟨first, second⟩

section Letters

variable {text word : List Char} {c : Char}

theorem toLower_of_not_capital (other : ¬ (65 ≤ c.toNat ∧ c.toNat ≤ 90)) : c.toLower = c :=
  dif_neg other

theorem toLower_of_isBlank (blank : isBlank c = true) : c.toLower = c := by
  refine toLower_of_not_capital ?_
  rintro ⟨low, high⟩
  rw [isBlank_of_visible (by omega) (by omega)] at blank
  cases blank

/-- A character without case stands in a text only if it stands in every text with the same
letters. -/
theorem not_mem_of_sameLetters (same : sameLetters text word = true) (fixed : c.toLower = c)
    (absent : c ∉ lower word) : c ∉ text := by
  intro inside
  have mapped : c.toLower ∈ lower text := List.mem_map_of_mem inside
  rw [fixed, eq_of_beq same] at mapped
  exact absent mapped

theorem solid_of_sameLetters (same : sameLetters text word = true) (solid : Solid (lower word)) :
    Solid text := by
  intro c inside
  by_contra blank
  have held := Bool.eq_true_of_not_eq_false blank
  refine not_mem_of_sameLetters same (toLower_of_isBlank held) (fun within => ?_) inside
  exact blank (solid c within)

end Letters

section Trimming

variable {test : Char → Bool} {text : List Char}

theorem trimEndBy_append_of_all {tail : List Char} (dropped : tail.all test = true) :
    trimEndBy test (text ++ tail) = trimEndBy test text := by
  have reversed : ∀ c ∈ tail.reverse, test c = true := fun c inside =>
    List.all_eq_true.1 dropped c (List.mem_reverse.1 inside)
  rw [trimEndBy, List.reverse_append, List.dropWhile_append_of_pos reversed, trimEndBy]

theorem trimBy_append_of_all {tail : List Char} (dropped : tail.all test = true) :
    trimBy test (text ++ tail) = trimBy test text := by
  rw [trimBy, trimBy, trimStartBy, trimStartBy, List.dropWhile_append]
  by_cases gone : (text.dropWhile test).isEmpty = true
  · rw [if_pos gone, List.isEmpty_iff.1 gone,
      List.dropWhile_eq_nil_iff.2 (List.all_eq_true.1 dropped)]
  · rw [if_neg gone, trimEndBy_append_of_all dropped]

theorem trimStartBy_of_all_append {head : List Char} (dropped : head.all test = true) :
    trimStartBy test (head ++ text) = trimStartBy test text :=
  List.dropWhile_append_of_pos (List.all_eq_true.1 dropped)

theorem trimBy_of_all_append {head : List Char} (dropped : head.all test = true) :
    trimBy test (head ++ text) = trimBy test text := by
  rw [trimBy, trimStartBy_of_all_append dropped, trimBy]

theorem trimStartBy_eq_self (first : ∀ c ∈ text.head?, test c = false) :
    trimStartBy test text = text := by
  cases text with
  | nil => rfl
  | cons c text => simp [trimStartBy, first c rfl]

/-- A text that neither starts nor ends with a dropped character is kept as a whole. -/
theorem trimBy_eq_self (first : ∀ c ∈ text.head?, test c = false)
    (last : ∀ c ∈ text.getLast?, test c = false) : trimBy test text = text := by
  have reversed : trimStartBy test text.reverse = text.reverse :=
    trimStartBy_eq_self (by simpa using last)
  rw [trimBy, trimStartBy_eq_self first, trimEndBy]
  exact (congrArg List.reverse reversed).trans text.reverse_reverse

theorem head?_trimStartBy {c : Char} (first : c ∈ (trimStartBy test text).head?) :
    test c = false := by
  have stopped := List.head?_dropWhile_not test text
  rw [trimStartBy] at first
  rw [Option.mem_def.1 first] at stopped
  exact stopped

/-- Only dropped characters stand around what is kept, and what is kept neither starts nor ends with
one of them. -/
structure Trims (test : Char → Bool) (text kept : List Char) : Prop where
  around : ∃ front back, text = front ++ kept ++ back ∧ ∀ c ∈ front ++ back, test c = true
  first : ∀ c ∈ kept.head?, test c = false
  last : ∀ c ∈ kept.getLast?, test c = false

theorem trims_trimBy (test : Char → Bool) (text : List Char) :
    Trims test text (trimBy test text) := by
  let begun := trimStartBy test text
  have start : text = text.takeWhile test ++ begun :=
    List.takeWhile_append_dropWhile.symm
  have stop : begun = trimEndBy test begun ++ (begun.reverse.takeWhile test).reverse := by
    rw [trimEndBy, ← List.reverse_append, List.takeWhile_append_dropWhile, List.reverse_reverse]
  refine ⟨⟨text.takeWhile test, (begun.reverse.takeWhile test).reverse, ?_, ?_⟩, ?_, ?_⟩
  · rw [trimBy, List.append_assoc, ← stop, ← start]
  · intro c inside
    rcases List.mem_append.1 inside with front | back
    · exact List.mem_takeWhile_imp front
    · exact List.mem_takeWhile_imp (List.mem_reverse.1 back)
  · intro c first
    have begins : c ∈ begun.head? := by
      rw [stop]
      exact List.mem_head?_append_of_mem_head? first
    exact head?_trimStartBy begins
  · intro c last
    have begins : c ∈ (trimStartBy test begun.reverse).head? := by
      rw [← List.getLast?_reverse]
      exact last
    exact head?_trimStartBy begins

theorem mem_trim_or_isBlank {c : Char} (inside : c ∈ text) :
    c ∈ trim text ∨ isBlank c = true := by
  obtain ⟨front, back, whole, blank⟩ := (trims_trimBy isBlank text).around
  rw [whole, List.mem_append, List.mem_append] at inside
  rcases inside with (inFront | kept) | inBack
  · exact .inr (blank c (List.mem_append_left _ inFront))
  · exact .inl kept
  · exact .inr (blank c (List.mem_append_right _ inBack))

theorem trim_eq_self (solid : Solid text) : trim text = text :=
  trimBy_eq_self (fun c inside => solid c (List.mem_of_mem_head? inside))
    fun c inside => solid c (List.mem_of_mem_getLast? inside)

end Trimming

section Cutting

variable {separator front text rest : List Char} {c : Char}

theorem dropStart?_eq_none (absent : ¬ separator <+: text) :
    dropStart? separator text = none := by
  cases found : dropStart? separator text with
  | none => rfl
  | some rest => exact absurd ⟨rest, (eq_append_of_dropStart? found).symm⟩ absent

/-- A start without this character does not reach beyond it. -/
theorem prefix_of_prefix_append_cons (outside : c ∉ separator)
    (start : separator <+: front ++ c :: rest) : separator <+: front := by
  induction front generalizing separator with
  | nil =>
    cases separator with
    | nil => exact List.nil_prefix
    | cons s separator =>
      obtain ⟨rfl, -⟩ := List.cons_prefix_cons.1 start
      exact absurd List.mem_cons_self outside
  | cons d front ih =>
    cases separator with
    | nil => exact List.nil_prefix
    | cons s separator =>
      obtain ⟨rfl, within⟩ := List.cons_prefix_cons.1 start
      exact List.cons_prefix_cons.2 ⟨rfl, ih (fun inside => outside (.tail _ inside)) within⟩

theorem cutFirst?_append_self (separator rest : List Char) :
    cutFirst? separator (separator ++ rest) = some ([], rest) := by
  cases separator with
  | nil => cases rest <;> rfl
  | cons s separator =>
    have found := dropStart?_append (s :: separator) rest
    rw [List.cons_append] at found ⊢
    rw [cutFirst?, found]

theorem cutFirst?_cons_of_not_start (absent : ¬ separator <+: c :: text) :
    cutFirst? separator (c :: text) =
      (cutFirst? separator text).map fun cut => (c :: cut.1, cut.2) := by
  rw [cutFirst?, dropStart?_eq_none absent]

theorem cutFirst?_eq_none (absent : ¬ separator <:+: text) : cutFirst? separator text = none := by
  cases found : cutFirst? separator text with
  | none => rfl
  | some cut => exact absurd ⟨cut.1, cut.2, (eq_append_of_cutFirst? found).symm⟩ absent

/-- A separator is not found before its first character. -/
theorem cutFirst?_append_of_not_mem (absent : c ∉ front) :
    cutFirst? (c :: separator) (front ++ text) =
      (cutFirst? (c :: separator) text).map fun cut => (front ++ cut.1, cut.2) := by
  induction front with
  | nil => simp
  | cons d front ih =>
    obtain ⟨differs, absent⟩ := not_or.1 (mt List.mem_cons.2 absent)
    have elsewhere : ¬ c :: separator <+: d :: (front ++ text) :=
      fun start => differs (List.cons_prefix_cons.1 start).1
    rw [List.cons_append, cutFirst?_cons_of_not_start elsewhere, ih absent, Option.map_map]
    rfl

theorem cutFirst?_singleton (absent : c ∉ front) :
    cutFirst? [c] (front ++ c :: text) = some (front, text) := by
  rw [cutFirst?_append_of_not_mem absent, show c :: text = [c] ++ text from rfl,
    cutFirst?_append_self]
  simp

theorem dropEnd?_eq_some_iff {final : List Char} :
    dropEnd? final text = some front ↔ text = front ++ final := by
  rw [dropEnd?, Option.map_eq_some_iff]
  constructor
  · rintro ⟨rest, found, rfl⟩
    have whole := congrArg List.reverse (eq_append_of_dropStart? found)
    rwa [List.reverse_reverse, List.reverse_append, List.reverse_reverse] at whole
  · rintro rfl
    exact ⟨front.reverse, by rw [List.reverse_append, dropStart?_append], List.reverse_reverse _⟩

theorem dropEnd?_append (front final : List Char) :
    dropEnd? final (front ++ final) = some front :=
  dropEnd?_eq_some_iff.2 rfl

theorem dropEnd?_singleton_eq_none (other : c ∉ text.getLast?) : dropEnd? [c] text = none := by
  cases found : dropEnd? [c] text with
  | none => rfl
  | some front =>
    rw [dropEnd?_eq_some_iff.1 found, List.getLast?_concat] at other
    exact absurd rfl other

/-- A text is cut at the character that stands before its last piece. -/
theorem cutLast?_append_cons {final : List Char} (outside : c ∉ final) :
    cutLast? c (front ++ c :: final) = some (front, final) := by
  have reversed : (front ++ c :: final).reverse = final.reverse ++ c :: front.reverse := by
    simp
  have plain : c ∉ final.reverse := by
    rwa [List.mem_reverse]
  rw [cutLast?, reversed, cutFirst?_singleton plain]
  simp

/-- The last place of a character is the first one from the end of the text. -/
theorem exists_cutLast? (inside : c ∈ text) :
    ∃ front final, cutLast? c text = some (front, final) ∧ text = front ++ c :: final ∧
      c ∉ final := by
  obtain ⟨final, front, reversed, outside⟩ :=
    List.eq_append_cons_of_mem (List.mem_reverse.2 inside)
  have whole : text = front.reverse ++ c :: final.reverse := by
    rw [← List.reverse_reverse text, reversed]
    simp
  have plain : c ∉ final.reverse := by
    rwa [List.mem_reverse]
  exact ⟨_, _, whole ▸ cutLast?_append_cons plain, whole, plain⟩

theorem cutLast?_eq_none (absent : c ∉ text) : cutLast? c text = none := by
  have missing : ¬ [c] <:+: text.reverse := fun within =>
    absent (List.mem_reverse.1 (within.subset List.mem_cons_self))
  rw [cutLast?, cutFirst?_eq_none missing, Option.map_none]

/-- A separator that stands within a line is not found before the end of another line. -/
theorem cutFirst?_after_line (outside : c ∉ separator) (absent : ¬ separator <:+: front)
    (rest : List Char) :
    cutFirst? separator (front ++ c :: (separator ++ rest)) = some (front ++ [c], rest) := by
  induction front with
  | nil =>
    have elsewhere : ¬ separator <+: [] ++ c :: (separator ++ rest) := fun start =>
      absent (prefix_of_prefix_append_cons outside start).isInfix
    rw [List.nil_append] at elsewhere ⊢
    rw [cutFirst?_cons_of_not_start elsewhere, cutFirst?_append_self]
    rfl
  | cons d front ih =>
    have elsewhere : ¬ separator <+: d :: front ++ c :: (separator ++ rest) := fun start =>
      absent (prefix_of_prefix_append_cons outside start).isInfix
    have later : ¬ separator <:+: front := fun inside =>
      absent (inside.trans (List.suffix_cons d front).isInfix)
    rw [List.cons_append] at elsewhere ⊢
    rw [cutFirst?_cons_of_not_start elsewhere, ih later]
    rfl

theorem cutAll_of_eq_some (nonempty : separator ≠ [])
    (found : cutFirst? separator text = some (front, rest)) :
    cutAll separator text = front :: cutAll separator rest := by
  rw [cutAll, if_neg nonempty]
  split
  · simp_all
  · rename_i cut same
    obtain rfl : cut = (front, rest) := by simpa [found] using same.symm
    rfl

theorem cutAll_of_eq_none (missing : cutFirst? separator text = none) :
    cutAll separator text = [text] := by
  rw [cutAll]
  split
  · rfl
  · split
    · rfl
    · simp_all

theorem cutAll_of_not_mem (absent : c ∉ text) : cutAll [c] text = [text] :=
  cutAll_of_eq_none (cutFirst?_eq_none fun within => absent (within.subset List.mem_cons_self))

/-- A text is cut apart at a separator that stands in it, whatever is around the separator. -/
theorem cutAll_append_cons (c : Char) (front rest : List Char) :
    cutAll [c] (front ++ c :: rest) = cutAll [c] front ++ cutAll [c] rest := by
  by_cases inside : c ∈ front
  · obtain ⟨first, others, whole, absent⟩ := List.eq_append_cons_of_mem inside
    have shorter : others.length < front.length := by
      rw [whole, List.length_append, List.length_cons]
      omega
    rw [whole, List.append_assoc, List.cons_append,
      cutAll_of_eq_some (List.cons_ne_nil _ _) (cutFirst?_singleton absent),
      cutAll_of_eq_some (List.cons_ne_nil _ _) (cutFirst?_singleton absent),
      cutAll_append_cons c others rest, List.cons_append]
  · rw [cutAll_of_eq_some (List.cons_ne_nil _ _) (cutFirst?_singleton inside),
      cutAll_of_not_mem inside, List.singleton_append]
termination_by front.length

/-- Pieces that are written with the character before each of them are cut apart again. -/
theorem cutAll_flatMap_cons (absent : c ∉ front) {pieces : List (List Char)}
    (apart : ∀ piece ∈ pieces, c ∉ piece) :
    cutAll [c] (front ++ pieces.flatMap (c :: ·)) = front :: pieces := by
  have alone := cutAll_of_not_mem absent
  induction pieces generalizing front with
  | nil => rw [List.flatMap_nil, List.append_nil, alone]
  | cons piece pieces ih =>
    obtain ⟨here, later⟩ := List.forall_mem_cons.1 apart
    rw [List.flatMap_cons, List.cons_append, cutAll_append_cons, alone,
      ih here later (cutAll_of_not_mem here), List.singleton_append]

end Cutting

section Lines

variable {line rest reversed : List Char}

theorem linesAfter_append (within : '\n' ∉ line) :
    linesAfter reversed (line ++ rest) = linesAfter (line.reverse ++ reversed) rest := by
  induction line generalizing reversed with
  | nil => rfl
  | cons c line ih =>
    obtain ⟨differs, within⟩ := not_or.1 (mt List.mem_cons.2 within)
    rw [List.cons_append, linesAfter, if_neg (Ne.symm differs), ih within]
    simp

/-- The first line of a text ends before its line end. -/
theorem lines_append (within : '\n' ∉ line) (rest : List Char) :
    lines (line ++ '\r' :: '\n' :: rest) = line :: lines rest := by
  have differs : '\r' ≠ '\n' := by decide
  rw [lines, linesAfter_append within, List.append_nil, linesAfter, if_neg differs, linesAfter,
    if_pos rfl, endLine, if_pos rfl, List.reverse_reverse, lines]

theorem lines_eq_singleton (within : '\n' ∉ line) (nonempty : line ≠ []) :
    lines line = [line] := by
  have read : linesAfter [] (line ++ []) = _ := linesAfter_append within
  rw [List.append_nil, List.append_nil] at read
  rw [lines, read]
  cases reversed : line.reverse with
  | nil => exact absurd (List.reverse_eq_nil_iff.1 reversed) nonempty
  | cons c others =>
    change [(c :: others).reverse] = [line]
    rw [← reversed, List.reverse_reverse]

end Lines

section Words

variable {word rest reversed : List Char}

theorem wordsAfter_cons (reversed : List Char) (c : Char) (text : List Char) :
    wordsAfter reversed (c :: text) =
      if isBlank c then
        if reversed = [] then wordsAfter [] text else reversed.reverse :: wordsAfter [] text
      else wordsAfter (c :: reversed) text := by
  cases reversed <;> rfl

theorem wordsAfter_append (solid : Solid word) :
    wordsAfter reversed (word ++ rest) = wordsAfter (word.reverse ++ reversed) rest := by
  induction word generalizing reversed with
  | nil => rfl
  | cons c word ih =>
    obtain ⟨here, others⟩ := List.forall_mem_cons.1 solid
    rw [List.cons_append, wordsAfter_cons, here, if_neg Bool.false_ne_true, ih others]
    simp

/-- The first word of a text ends before a space. -/
theorem words_append (nonempty : word ≠ []) (solid : Solid word) (rest : List Char) :
    words (word ++ ' ' :: rest) = word :: words rest := by
  have blank : isBlank ' ' = true := by decide
  have started : word.reverse ≠ [] := mt List.reverse_eq_nil_iff.1 nonempty
  rw [words, wordsAfter_append solid, List.append_nil, wordsAfter_cons, if_pos blank,
    if_neg started, List.reverse_reverse, words]

end Words

end Scaledown.Text
