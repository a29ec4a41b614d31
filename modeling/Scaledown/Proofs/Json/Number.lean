/-
This file holds the grammar of JSON numbers and shows that every number is read as one token.
-/

import Scaledown.Proofs.Json.Spacing

namespace Scaledown.Json

/-- These texts are rows of at least one digit. -/
structure IsDigits (text : List Char) : Prop where
  present : text ≠ []
  digits : ∀ c ∈ text, c.isDigit = true

/-- A zero stands at the start of a whole number only when it stands alone. -/
inductive IsWhole : List Char → Prop where
  | zero : IsWhole ['0']
  | digits {text : List Char} (digits : IsDigits text) (first : text.head? ≠ some '0') :
      IsWhole text

inductive IsFraction : List Char → Prop where
  | missing : IsFraction []
  | digits {text : List Char} (digits : IsDigits text) : IsFraction ('.' :: text)

inductive IsExponent : List Char → Prop where
  | missing : IsExponent []
  | digits {letter : Char} {sign text : List Char} (letter_eq : letter = 'e' ∨ letter = 'E')
      (sign_eq : sign = [] ∨ sign = ['+'] ∨ sign = ['-']) (digits : IsDigits text) :
      IsExponent (letter :: (sign ++ text))

/-- Behind an optional sign stands a whole number, and then perhaps a fraction and an exponent. -/
inductive IsNumber : List Char → Prop where
  | parts {sign digits places power : List Char} (sign_eq : sign = [] ∨ sign = ['-'])
      (whole : IsWhole digits) (fraction : IsFraction places) (exponent : IsExponent power) :
      IsNumber (sign ++ (digits ++ (places ++ power)))

section Reading

variable {text rest : List Char}

theorem IsDigits.digits?_append (digits : IsDigits text)
    (stops : ∀ c ∈ rest.head?, c.isDigit = false) :
    digits? (text ++ rest) = some (text, rest) := by
  obtain ⟨taken, dropped⟩ := takeWhile_append_of_apart text stops
  have whole : text.takeWhile Char.isDigit = text :=
    List.takeWhile_eq_self_iff.2 digits.digits
  have nothing : text.dropWhile Char.isDigit = [] :=
    List.dropWhile_eq_nil_iff.2 digits.digits
  rw [digits?, taken, dropped, whole, nothing, if_neg digits.present]
  rfl

theorem IsWhole.integer?_append (whole : IsWhole text)
    (stops : ∀ c ∈ rest.head?, c.isDigit = false) :
    integer? (text ++ rest) = some (text, rest) := by
  cases whole with
  | zero => rfl
  | digits digits first =>
    obtain ⟨c, others, rfl⟩ := List.exists_cons_of_ne_nil digits.present
    have other : c ≠ '0' := by simpa using first
    rw [List.cons_append, integer?_cons_of_ne other]
    exact digits.digits?_append stops

theorem IsFraction.fraction?_append (fraction : IsFraction text)
    (stops : ∀ c ∈ rest.head?, c.isDigit = false) (pointless : rest.head? ≠ some '.') :
    fraction? (text ++ rest) = some (text, rest) := by
  cases fraction with
  | missing => exact fraction?_of_head?_ne pointless
  | digits digits =>
    simp [fraction?, digits.digits?_append stops]

theorem IsExponent.exponent?_eq (exponent : IsExponent text) :
    exponent? text = some (text, []) := by
  cases exponent with
  | missing => rfl
  | @digits letter sign text letter_eq sign_eq digits =>
    have read : digits? text = some (text, []) := by
      have whole := @IsDigits.digits?_append text [] digits (by simp)
      rwa [List.append_nil] at whole
    rcases sign_eq with rfl | rfl | rfl
    · obtain ⟨c, others, rfl⟩ := List.exists_cons_of_ne_nil digits.present
      have digit := digits.digits c List.mem_cons_self
      have plus : c ≠ '+' := by
        rintro rfl
        cases digit
      have minus : c ≠ '-' := by
        rintro rfl
        cases digit
      rw [List.nil_append, exponent?_cons_cons_of_ne letter_eq plus minus, read]
      rfl
    · simp [exponent?, letter_eq, read]
    · simp [exponent?, letter_eq, read]

theorem IsExponent.head? (exponent : IsExponent text) :
    ∀ c ∈ text.head?, c = 'e' ∨ c = 'E' := by
  cases exponent with
  | missing => exact nofun
  | digits letter_eq =>
    rintro _ ⟨⟩
    exact letter_eq

theorem IsExponent.not_isDigit (exponent : IsExponent text) :
    ∀ c ∈ text.head?, c.isDigit = false := by
  intro c first
  rcases exponent.head? c first with rfl | rfl <;> rfl

theorem IsExponent.head?_ne_point (exponent : IsExponent text) : text.head? ≠ some '.' := by
  intro first
  have letter := exponent.head? '.' first
  revert letter
  decide

/-- Neither a fraction nor an exponent starts with a digit. -/
theorem IsFraction.not_isDigit (fraction : IsFraction text) (exponent : IsExponent rest) :
    ∀ c ∈ (text ++ rest).head?, c.isDigit = false := by
  cases fraction with
  | missing => exact exponent.not_isDigit
  | digits digits =>
    rintro _ ⟨⟩
    rfl

theorem IsWhole.head_isDigit (whole : IsWhole text) :
    ∃ c others, text = c :: others ∧ c.isDigit = true := by
  cases whole with
  | zero => exact ⟨'0', [], rfl, rfl⟩
  | digits digits first =>
    obtain ⟨c, others, rfl⟩ := List.exists_cons_of_ne_nil digits.present
    exact ⟨c, others, rfl, digits.digits c List.mem_cons_self⟩

/-- A number is read to its end as one token. -/
theorem IsNumber.token?_eq (number : IsNumber text) :
    token? text = some (.number (String.ofList text), []) := by
  obtain @⟨sign, digits, places, power, sign_eq, whole, fraction, exponent⟩ := number
  have magnitude : magnitude? (digits ++ (places ++ power)) =
      some (digits ++ (places ++ power), []) := by
    simp [magnitude?, whole.integer?_append (fraction.not_isDigit exponent),
      fraction.fraction?_append exponent.not_isDigit exponent.head?_ne_point,
      exponent.exponent?_eq]
  rcases sign_eq with rfl | rfl
  · obtain ⟨c, others, rfl, digit⟩ := whole.head_isDigit
    rw [List.nil_append, List.cons_append, token?_of_isDigit digit, ← List.cons_append, magnitude]
    rfl
  · simp [token?, magnitude]

end Reading

end Scaledown.Json
