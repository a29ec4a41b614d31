/-
This file tells which texts are decimal numbers and shows that written numbers are read back.
-/

import Scaledown.Proofs.Text.Split
import Scaledown.Text.Decimal

namespace Scaledown.Text

section Reading

variable {limit start value : Nat} {text : List Char} {c : Char}

theorem isDigit_iff : c.isDigit = true ↔ '0' ≤ c ∧ c ≤ '9' := by
  rw [Char.isDigit, Bool.and_eq_true, decide_eq_true_eq, decide_eq_true_eq]
  exact Iff.rfl

theorem digit?_of_isDigit (digit : c.isDigit = true) : digit? c = some (c.toNat - '0'.toNat) := by
  rw [digit?, if_pos (isDigit_iff.1 digit)]

theorem digit?_eq_none (other : c.isDigit = false) : digit? c = none := by
  rw [digit?, if_neg fun range => ?_]
  rw [isDigit_iff.2 range] at other
  cases other

theorem le_ofDigitChars (start : Nat) (text : List Char) :
    start ≤ Nat.ofDigitChars 10 text start := by
  induction text generalizing start with
  | nil => exact le_rfl
  | cons c text ih =>
    rw [Nat.ofDigitChars_cons]
    have grown := ih (10 * start + (c.toNat - '0'.toNat))
    omega

/-- The leading digits of a number stay below it, so it is too large exactly when one of the numbers
on the way is too large. -/
theorem digitsAfter_eq_ok_iff (bounded : start ≤ limit) :
    digitsAfter limit start text = .ok value ↔
      (∀ c ∈ text, c.isDigit = true) ∧ Nat.ofDigitChars 10 text start = value ∧ value ≤ limit := by
  induction text generalizing start with
  | nil =>
    simp only [digitsAfter, Except.ok.injEq, Nat.ofDigitChars_nil, List.not_mem_nil]
    constructor
    · rintro rfl
      exact ⟨by simp, rfl, bounded⟩
    · rintro ⟨-, same, -⟩
      exact same
  | cons c text ih =>
    rw [digitsAfter, List.forall_mem_cons, Nat.ofDigitChars_cons]
    cases digit : c.isDigit with
    | false => simp [digit?_eq_none digit]
    | true =>
      rw [digit?_of_isDigit digit, Nat.mul_comm 10 start]
      dsimp only
      split
      · rename_i large
        simp only [reduceCtorEq, true_and, false_iff]
        rintro ⟨-, rfl, small⟩
        have grown := le_ofDigitChars (start * 10 + (c.toNat - '0'.toNat)) text
        omega
      · rename_i small
        simpa using ih (Nat.le_of_not_lt small)

/-- A sign is optional, and a sign alone is no number. -/
theorem decimal_eq_ok_iff : decimal limit text = .ok value ↔
    ∃ sign digits, text = sign ++ digits ∧ (sign = [] ∨ sign = ['+']) ∧ digits ≠ [] ∧
      (∀ c ∈ digits, c.isDigit = true) ∧ Nat.ofDigitChars 10 digits 0 = value ∧
        value ≤ limit := by
  constructor
  · intro read
    cases text with
    | nil => cases read
    | cons c text =>
      rw [decimal] at read
      split at read
      · rename_i signed
        obtain ⟨rfl, present⟩ := signed
        exact ⟨['+'], text, rfl, .inr rfl, present, (digitsAfter_eq_ok_iff (Nat.zero_le _)).1 read⟩
      · exact ⟨[], c :: text, rfl, .inl rfl, List.cons_ne_nil _ _,
          (digitsAfter_eq_ok_iff (Nat.zero_le _)).1 read⟩
  · rintro ⟨sign, digits, rfl, signed, present, spelled⟩
    have read := (digitsAfter_eq_ok_iff (Nat.zero_le limit)).2 spelled
    rcases signed with rfl | rfl
    · cases digits with
      | nil => exact absurd rfl present
      | cons c digits =>
        have unsigned : c ≠ '+' := by
          rintro rfl
          exact absurd (spelled.1 '+' List.mem_cons_self) (by decide)
        rw [List.nil_append, decimal, if_neg fun both => unsigned both.1]
        exact read
    · rw [List.singleton_append, decimal, if_pos ⟨rfl, present⟩]
      exact read

end Reading

theorem isDigit_of_mem_repr {number : Nat} {c : Char} (inside : c ∈ (Nat.repr number).toList) :
    c.isDigit = true := by
  rw [Nat.repr_eq_ofList_toDigits, String.toList_ofList] at inside
  exact Nat.isDigit_of_mem_toDigits (by decide) le_rfl inside

theorem toList_repr_ne_nil (number : Nat) : (Nat.repr number).toList ≠ [] := by
  rw [Nat.repr_eq_ofList_toDigits, String.toList_ofList]
  exact Nat.toDigits_ne_nil

theorem isBlank_of_isDigit {c : Char} (digit : c.isDigit = true) : isBlank c = false := by
  simp only [Char.isDigit, Bool.and_eq_true, decide_eq_true_eq] at digit
  have low : 48 ≤ c.toNat := digit.1
  have high : c.toNat ≤ 57 := digit.2
  exact isBlank_of_visible (by omega) (by omega)

theorem solid_repr (number : Nat) : Solid (Nat.repr number).toList :=
  fun _ inside => isBlank_of_isDigit (isDigit_of_mem_repr inside)

theorem decimal_repr {limit number : Nat} (bounded : number ≤ limit) :
    decimal limit (Nat.repr number).toList = .ok number := by
  have digits : (Nat.repr number).toList = Nat.toDigits 10 number := by
    rw [Nat.repr_eq_ofList_toDigits, String.toList_ofList]
  refine decimal_eq_ok_iff.2 ⟨[], (Nat.repr number).toList, rfl, .inl rfl,
    toList_repr_ne_nil number, fun _ inside => isDigit_of_mem_repr inside, ?_, bounded⟩
  rw [digits, Nat.ofDigitChars_ten_toDigits]

/-- Different numbers are written differently. -/
theorem repr_injective : Function.Injective Nat.repr := by
  intro one other same
  have read := decimal_repr (le_max_left one other)
  rw [same, decimal_repr (le_max_right one other)] at read
  exact (Except.ok.inj read).symm

end Scaledown.Text
