/-
This file tells which texts differ in the case of ASCII letters only, and where a piece of a text
stands.
-/

import Mathlib.Data.List.Forall2
import Scaledown.Proofs.Text.Decimal

namespace Scaledown.Text

section Letters

variable {c d : Char} {first second : List Char}

/-- A capital of ASCII stands thirty-two places before its small letter. -/
def IsCapitalOf (c d : Char) : Prop :=
  'A' ≤ c ∧ c ≤ 'Z' ∧ d.toNat = c.toNat + 32

/-- A letter of ASCII is the same in both cases. Other characters are the same only when they are
equal. -/
def SameLetter (c d : Char) : Prop :=
  c = d ∨ IsCapitalOf c d ∨ IsCapitalOf d c

theorem isCapitalOf_iff :
    IsCapitalOf c d ↔ 65 ≤ c.toNat ∧ c.toNat ≤ 90 ∧ d.toNat = c.toNat + 32 :=
  Iff.rfl

theorem toNat_toLower (c : Char) :
    c.toLower.toNat = if 65 ≤ c.toNat ∧ c.toNat ≤ 90 then c.toNat + 32 else c.toNat := by
  by_cases capital : 65 ≤ c.toNat ∧ c.toNat ≤ 90
  · have shifted : c.toLower.val = c.val + 32 := congrArg Char.val (dif_pos capital)
    rw [if_pos capital, Char.toNat, shifted, UInt32.toNat_add]
    exact Nat.mod_eq_of_lt (Nat.lt_of_le_of_lt (Nat.add_le_add_right capital.2 32) (by decide))
  · rw [if_neg capital, toLower_of_not_capital capital]

theorem toLower_eq_toLower_iff : c.toLower = d.toLower ↔ SameLetter c d := by
  rw [← Char.toNat_inj, toNat_toLower, toNat_toLower, SameLetter, isCapitalOf_iff, isCapitalOf_iff,
    ← Char.toNat_inj]
  split_ifs <;> omega

/-- Two texts become equal in small letters when they agree letter by letter. -/
theorem lower_eq_lower_iff :
    lower first = lower second ↔ List.Forall₂ SameLetter first second := by
  simp only [lower, ← List.forall₂_eq_eq_eq, List.forall₂_map_left_iff, List.forall₂_map_right_iff,
    toLower_eq_toLower_iff]

theorem toLower_of_isDigit (digit : c.isDigit = true) : c.toLower = c := by
  have high : c.toNat ≤ 57 := (isDigit_iff.1 digit).2
  exact toLower_of_not_capital (by omega)

theorem lower_append (first second : List Char) :
    lower (first ++ second) = lower first ++ lower second :=
  List.map_append

theorem lower_repr (number : Nat) : lower (Nat.repr number).toList = (Nat.repr number).toList := by
  have kept : ∀ c ∈ (Nat.repr number).toList, c.toLower = id c := fun c inside =>
    toLower_of_isDigit (isDigit_of_mem_repr inside)
  rw [lower, List.map_congr_left kept, List.map_id]

end Letters

section Pieces

variable {piece front rest text : List Char} {c : Char}

theorem isSome_cutFirst? (inside : piece <:+: text) : (cutFirst? piece text).isSome = true := by
  induction text with
  | nil =>
    rw [List.infix_nil.1 inside]
    rfl
  | cons c text ih =>
    rcases List.infix_cons_iff.1 inside with ⟨rest, start⟩ | within
    · rw [← start, cutFirst?_append_self]
      rfl
    · rw [cutFirst?]
      split
      · rfl
      · rw [Option.isSome_map]
        exact ih within

theorem contains_eq_true_iff : contains piece text = true ↔ piece <:+: text := by
  refine ⟨fun found => ?_, isSome_cutFirst?⟩
  by_contra absent
  rw [contains, cutFirst?_eq_none absent] at found
  cases found

theorem eq_nil_of_prefix_cons (outside : c ∉ piece) (start : piece <+: c :: rest) : piece = [] := by
  cases piece with
  | nil => rfl
  | cons d piece =>
    obtain ⟨rfl, -⟩ := List.cons_prefix_cons.1 start
    exact absurd List.mem_cons_self outside

theorem not_prefix_cons (nonempty : piece ≠ []) (first : piece.head? ≠ some c) :
    ¬ piece <+: c :: rest := by
  intro start
  cases piece with
  | nil => exact nonempty rfl
  | cons d piece =>
    obtain ⟨rfl, -⟩ := List.cons_prefix_cons.1 start
    exact first rfl

/-- A piece without this character stands before the character or behind it. -/
theorem infix_append_cons_iff (outside : c ∉ piece) :
    piece <:+: front ++ c :: rest ↔ piece <:+: front ∨ piece <:+: rest := by
  constructor
  · intro inside
    rcases List.infix_append_iff.1 inside with before | behind | ⟨former, latter, rfl, ends, starts⟩
    · exact .inl before
    · rcases List.infix_cons_iff.1 behind with start | within
      · rw [eq_nil_of_prefix_cons outside start]
        exact .inl List.nil_infix
      · exact .inr within
    · have apart : c ∉ latter := fun held => outside (List.mem_append_right former held)
      rw [eq_nil_of_prefix_cons apart starts, List.append_nil]
      exact .inl ends.isInfix
  · rintro (before | behind)
    · exact before.trans (List.prefix_append front _).isInfix
    · exact behind.trans ((List.suffix_cons c rest).trans (List.suffix_append front _)).isInfix

end Pieces

end Scaledown.Text
