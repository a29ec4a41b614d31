/-
This file shows that spaces between the tokens of a JSON text change nothing.
-/

import Mathlib.Data.List.TakeWhile
import Mathlib.Tactic
import Scaledown.Json.Reader

namespace Scaledown.Json

/-- A number may go on with a digit, a point or the letter of an exponent. -/
def extendsNumber (c : Char) : Bool :=
  c.isDigit || c == '.' || c == 'e' || c == 'E'

/-- A text is apart from a number before it when the number cannot go on into it. -/
def Apart (text : List Char) : Prop :=
  ∀ c ∈ text.head?, extendsNumber c = false

theorem Apart.not_isDigit {text : List Char} (apart : Apart text) :
    ∀ c ∈ text.head?, c.isDigit = false := by
  intro c first
  have other := apart c first
  simp only [extendsNumber, Bool.or_eq_false_iff] at other
  exact other.1.1.1

/-- What is read at the start of a text is read at the start of a longer text too. -/
def ReadsOn {α : Type} (read : List Char → Option (α × List Char)) : Prop :=
  ∀ ⦃text value rest⦄, read text = some (value, rest) →
    ∀ more, Apart more → read (text ++ more) = some (value, rest ++ more)

section Numbers

variable {more : List Char}

theorem takeWhile_append_of_apart {p : Char → Bool} (text : List Char)
    (stops : ∀ c ∈ more.head?, p c = false) :
    (text ++ more).takeWhile p = text.takeWhile p ∧
      (text ++ more).dropWhile p = text.dropWhile p ++ more := by
  induction text with
  | nil =>
    cases more with
    | nil => exact ⟨rfl, rfl⟩
    | cons c more => simp [stops c rfl]
  | cons c text ih =>
    cases holds : p c with
    | true => simp [holds, ih]
    | false => simp [holds]

theorem readsOn_digits? : ReadsOn digits? := by
  intro text value rest read more apart
  obtain ⟨taken, dropped⟩ := takeWhile_append_of_apart text apart.not_isDigit
  rw [digits?] at read ⊢
  rw [taken, dropped]
  by_cases none : text.takeWhile Char.isDigit = []
  · simp [none] at read
  · simp only [none, if_false, Option.some.injEq, Prod.mk.injEq] at read ⊢
    obtain ⟨rfl, rfl⟩ := read
    exact ⟨rfl, rfl⟩

/-- A reader may pass what it read on in another form. -/
theorem ReadsOn.map_eq_some {α β : Type} {read : List Char → Option (α × List Char)}
    (readsOn : ReadsOn read) (form : α → β) {text rest : List Char} {value : β}
    (done : (read text).map (fun found => (form found.1, found.2)) = some (value, rest))
    (apart : Apart more) :
    (read (text ++ more)).map (fun found => (form found.1, found.2)) =
      some (value, rest ++ more) := by
  obtain ⟨⟨found, remaining⟩, first, same⟩ := Option.map_eq_some_iff.1 done
  obtain ⟨rfl, rfl⟩ := Prod.mk.inj same
  rw [readsOn first more apart]
  rfl

theorem integer?_cons_of_ne {c : Char} (other : c ≠ '0') (text : List Char) :
    integer? (c :: text) = digits? (c :: text) := by
  simp [integer?, other]

theorem fraction?_of_head?_ne {text : List Char} (other : text.head? ≠ some '.') :
    fraction? text = some ([], text) := by
  cases text with
  | nil => rfl
  | cons c text =>
    have other : c ≠ '.' := by simpa using other
    simp [fraction?, other]

theorem exponent?_of_head?_ne {text : List Char} (small : text.head? ≠ some 'e')
    (capital : text.head? ≠ some 'E') : exponent? text = some ([], text) := by
  cases text with
  | nil => rfl
  | cons c text =>
    have small : c ≠ 'e' := by simpa using small
    have capital : c ≠ 'E' := by simpa using capital
    simp [exponent?, small, capital]

theorem exponent?_cons_cons_of_ne {letter sign : Char} (exponent : letter = 'e' ∨ letter = 'E')
    (plus : sign ≠ '+') (minus : sign ≠ '-') (text : List Char) :
    exponent? (letter :: sign :: text) =
      (digits? (sign :: text)).map fun (digits, rest) => (letter :: digits, rest) := by
  simp [exponent?, exponent, plus, minus]

theorem Apart.head?_ne {c : Char} (apart : Apart more) (further : extendsNumber c = true) :
    more.head? ≠ some c := by
  intro first
  rw [apart c first] at further
  cases further

theorem readsOn_integer? : ReadsOn integer? := by
  intro text value rest read more apart
  cases text with
  | nil => cases read
  | cons c text =>
    by_cases zero : c = '0'
    · subst zero
      cases read
      rfl
    · rw [integer?_cons_of_ne zero] at read
      rw [List.cons_append, integer?_cons_of_ne zero]
      exact readsOn_digits? read more apart

theorem readsOn_fraction? : ReadsOn fraction? := by
  intro text value rest read more apart
  cases text with
  | nil =>
    cases read
    exact fraction?_of_head?_ne (apart.head?_ne rfl)
  | cons c text =>
    by_cases point : c = '.'
    · subst point
      exact readsOn_digits?.map_eq_some ('.' :: ·) read apart
    · have other : (c :: text).head? ≠ some '.' := by simpa using point
      rw [fraction?_of_head?_ne other] at read
      cases read
      exact fraction?_of_head?_ne other

theorem readsOn_exponent? : ReadsOn exponent? := by
  intro text value rest read more apart
  cases text with
  | nil =>
    cases read
    exact exponent?_of_head?_ne (apart.head?_ne rfl) (apart.head?_ne rfl)
  | cons c text =>
    by_cases letter : c = 'e' ∨ c = 'E'
    · cases text with
      | nil => simp [exponent?, letter, digits?] at read
      | cons sign text =>
        by_cases plus : sign = '+'
        · subst plus
          simp only [exponent?, if_pos letter, List.cons_append] at read ⊢
          exact readsOn_digits?.map_eq_some (c :: '+' :: ·) read apart
        · by_cases minus : sign = '-'
          · subst minus
            simp only [exponent?, if_pos letter, List.cons_append] at read ⊢
            exact readsOn_digits?.map_eq_some (c :: '-' :: ·) read apart
          · rw [exponent?_cons_cons_of_ne letter plus minus] at read
            rw [List.cons_append, List.cons_append, exponent?_cons_cons_of_ne letter plus minus]
            exact readsOn_digits?.map_eq_some (c :: ·) read apart
    · have small : (c :: text).head? ≠ some 'e' := by simpa using fun same => letter (.inl same)
      have capital : (c :: text).head? ≠ some 'E' := by simpa using fun same => letter (.inr same)
      rw [exponent?_of_head?_ne small capital] at read
      cases read
      exact exponent?_of_head?_ne small capital

theorem readsOn_magnitude? : ReadsOn magnitude? := by
  intro text value rest read more apart
  simp only [magnitude?, Option.bind_eq_bind, Option.bind_eq_some_iff, Option.pure_def] at read ⊢
  obtain ⟨⟨whole, afterWhole⟩, wholeRead, ⟨fraction, afterFraction⟩, fractionRead,
    ⟨exponent, afterExponent⟩, exponentRead, same⟩ := read
  cases same
  exact ⟨_, readsOn_integer? wholeRead more apart, _, readsOn_fraction? fractionRead more apart, _,
    readsOn_exponent? exponentRead more apart, rfl⟩

theorem exists_cons_of_magnitude? {text rest : List Char} {spelling : List Char}
    (read : magnitude? text = some (spelling, rest)) :
    ∃ c after, text = c :: after ∧ c.isDigit = true := by
  simp only [magnitude?, Option.bind_eq_bind, Option.bind_eq_some_iff] at read
  obtain ⟨_, whole, -⟩ := read
  cases text with
  | nil => cases whole
  | cons c after =>
    refine ⟨c, after, rfl, ?_⟩
    by_cases zero : c = '0'
    · subst zero
      rfl
    · rw [integer?_cons_of_ne zero, digits?, List.takeWhile_cons] at whole
      cases digit : c.isDigit with
      | true => rfl
      | false => simp [digit] at whole

end Numbers

section Strings

variable {c : Char}

/-- One more unit stands before those that follow. -/
theorem bind_units (unit : Nat) (found : Option (List Nat × List Char)) :
    (do
      let (units, rest) ← found
      return (unit :: units, rest)) =
      found.map fun (units, rest) => (unit :: units, rest) := by
  cases found <;> rfl

theorem units?_short {letter : Char} (short : shortEscape? letter = some c) (rest : List Char) :
    units? ('\\' :: letter :: rest) =
      (units? rest).map fun (units, rest) => (c.toNat :: units, rest) := by
  have other : letter ≠ 'u' := by
    rintro rfl
    cases short
  rw [units?.eq_4 letter rest fun _ _ _ _ _ code => absurd code other, short]
  exact bind_units c.toNat (units? rest)

theorem units?_plain (quote : c ≠ '"') (backslash : c ≠ '\\') (visible : 0x20 ≤ c.toNat)
    (rest : List Char) :
    units? (c :: rest) = (units? rest).map fun (units, rest) => (c.toNat :: units, rest) := by
  have shown : ¬ (c == '\\' || decide (c.toNat < 0x20)) = true := by simp [backslash, visible]
  rw [units?.eq_5 c rest quote (fun _ _ _ _ _ same => absurd same backslash)
    (fun _ _ same => absurd same backslash), if_neg shown]
  exact bind_units c.toNat (units? rest)

theorem readsOn_units? : ReadsOn units? := by
  intro text units rest read more _
  fun_induction units? text generalizing units rest with
  | case1 => cases read
  | case2 text =>
    cases read
    rfl
  | case3 a b c d text ih =>
    simp only [Option.bind_eq_bind, Option.bind_eq_some_iff, Option.pure_def] at read
    obtain ⟨unit, code, ⟨others, remaining⟩, later, same⟩ := read
    cases same
    simp [units?, code, ih later]
  | case4 c text _ ih =>
    simp only [Option.bind_eq_bind, Option.bind_eq_some_iff, Option.pure_def] at read
    obtain ⟨escaped, letter, ⟨others, remaining⟩, later, same⟩ := read
    cases same
    rw [List.cons_append, List.cons_append, units?_short letter, ih later]
    rfl
  | case5 c text => cases read
  | case6 c text quote _ _ shown ih =>
    simp only [Option.bind_eq_bind, Option.bind_eq_some_iff, Option.pure_def] at read
    obtain ⟨⟨others, remaining⟩, later, same⟩ := read
    cases same
    simp only [Bool.or_eq_true, beq_iff_eq, decide_eq_true_eq, not_or, Nat.not_lt] at shown
    rw [List.cons_append, units?_plain quote shown.1 shown.2, ih later]
    rfl

end Strings

theorem token?_of_isDigit {c : Char} (digit : c.isDigit = true) (rest : List Char) :
    token? (c :: rest) =
      (magnitude? (c :: rest)).map fun (spelling, rest) =>
        (.number (String.ofList spelling), rest) := by
  apply token?.eq_13
  case _ => exact List.cons_ne_nil c rest
  all_goals
    rintro other same
    cases same
    exact absurd digit (by decide)

theorem readsOn_token? : ReadsOn token? := by
  intro text token rest read more apart
  rw [token?.eq_def] at read
  split at read
  case h_1 => cases read
  case h_11 text =>
    exact readsOn_units?.map_eq_some
      (fun units => Token.string ((ofUnits? units).map String.ofList)) read apart
  case h_12 text =>
    exact readsOn_magnitude?.map_eq_some
      (fun spelling => Token.number (String.ofList ('-' :: spelling))) read apart
  case h_13 =>
    obtain ⟨⟨spelling, remaining⟩, number, same⟩ := Option.map_eq_some_iff.1 read
    obtain ⟨c, after, rfl, digit⟩ := exists_cons_of_magnitude? number
    rw [List.cons_append, token?_of_isDigit digit]
    exact readsOn_magnitude?.map_eq_some
      (fun spelling => Token.number (String.ofList spelling)) read apart
  -- Every other token is one fixed word.
  all_goals
    cases read
    rfl

section Rows

variable {steps : Nat} {text before after spaces : List Char} {row former latter : List Token}

/-- A text is cut into a row of tokens with spaces around them. -/
inductive CutInto : List Char → List Token → Prop where
  | blank {text : List Char} (spaces : text.dropWhile isSpace = []) : CutInto text []
  | token {text rest : List Char} {token : Token} {row : List Token}
      (first : token? (text.dropWhile isSpace) = some (token, rest))
      (later : CutInto rest row) : CutInto text (token :: row)

/-- Each token takes one step. -/
theorem tokensWithin_eq_some_iff :
    tokensWithin steps text = some row ↔ CutInto text row ∧ row.length ≤ steps := by
  induction steps generalizing text row with
  | zero =>
    have blank : text.all isSpace = true ↔ text.dropWhile isSpace = [] := by
      rw [List.all_eq_true, List.dropWhile_eq_nil_iff]
    rw [tokensWithin]
    constructor
    · intro read
      split at read
      · cases read
        exact ⟨.blank (blank.1 ‹_›), le_rfl⟩
      · cases read
    · rintro ⟨cut, short⟩
      cases cut with
      | blank spaces => rw [if_pos (blank.2 spaces)]
      | token first later => cases short
  | succ steps ih =>
    rw [tokensWithin]
    constructor
    · intro read
      split at read
      · cases read
        exact ⟨.blank ‹_›, Nat.zero_le _⟩
      · simp only [Option.bind_eq_bind, Option.bind_eq_some_iff, Option.pure_def] at read
        obtain ⟨⟨token, rest⟩, first, others, later, same⟩ := read
        cases same
        obtain ⟨cut, short⟩ := ih.1 later
        exact ⟨.token first cut, Nat.succ_le_succ short⟩
    · rintro ⟨cut, short⟩
      cases cut with
      | blank spaces => simp [spaces]
      | @token _ rest token row first later =>
        have done := ih.2 ⟨later, Nat.le_of_succ_le_succ short⟩
        split
        · simp_all [token?]
        · simp [first, done]

theorem tokens?_eq_some_iff :
    tokens? text = some row ↔ CutInto text row ∧ row.length ≤ text.length :=
  tokensWithin_eq_some_iff

theorem CutInto.of_spaces (blank : ∀ c ∈ spaces, isSpace c = true) (cut : CutInto after latter) :
    CutInto (spaces ++ after) latter := by
  have dropped : (spaces ++ after).dropWhile isSpace = after.dropWhile isSpace :=
    List.dropWhile_append_of_pos blank
  cases cut with
  | blank spaces => exact .blank (dropped.trans spaces)
  | token first later => exact .token (dropped ▸ first) later

/-- Two texts that are cut into tokens make one text when no number goes on from one to the other. -/
theorem CutInto.append (left : CutInto before former) (right : CutInto after latter)
    (apart : Apart after) : CutInto (before ++ after) (former ++ latter) := by
  induction left with
  | blank spaces => exact .of_spaces (List.dropWhile_eq_nil_iff.1 spaces) right
  | @token text rest token row first later ih =>
    refine .token ?_ ih
    rw [List.dropWhile_append, if_neg, readsOn_token? first after apart]
    intro empty
    rw [List.isEmpty_iff.1 empty] at first
    cases first

theorem apart_of_isSpace {c : Char} (space : isSpace c = true) (text : List Char) :
    Apart (c :: text) := by
  rintro _ ⟨⟩
  simp only [isSpace, Bool.or_eq_true, beq_iff_eq] at space
  rcases space with ((rfl | rfl) | rfl) | rfl <;> rfl

end Rows

/-- Spaces are put where a text falls into two parts with whole tokens. -/
inductive Spaced : String → String → Prop where
  | between {before after : String} {former latter : List Token} (spaces : String)
      (left : tokens? before.toList = some former) (right : tokens? after.toList = some latter)
      (whole : tokens? (before ++ after).toList = some (former ++ latter))
      (blank : ∀ c ∈ spaces.toList, isSpace c = true) :
      Spaced (before ++ after) (before ++ spaces ++ after)

theorem Spaced.tokens?_eq {text other : String} (spaced : Spaced text other) :
    tokens? other.toList = tokens? text.toList := by
  obtain @⟨before, after, former, latter, spaces, left, right, whole, blank⟩ := spaced
  rw [whole]
  cases gap : spaces.toList with
  | nil => simpa [gap] using whole
  | cons c rest =>
    obtain ⟨leftCut, leftShort⟩ := tokens?_eq_some_iff.1 left
    obtain ⟨rightCut, rightShort⟩ := tokens?_eq_some_iff.1 right
    have space : isSpace c = true := blank c (by simp [gap])
    have cut := leftCut.append (.of_spaces blank rightCut)
      (gap ▸ apart_of_isSpace space (rest ++ after.toList))
    rw [String.toList_append, String.toList_append, List.append_assoc, tokens?_eq_some_iff]
    refine ⟨cut, ?_⟩
    simp only [List.length_append]
    omega

/-- Spaces between tokens change no value. -/
theorem Spaced.ofText?_eq {text other : String} (spaced : Spaced text other) :
    ofText? other = ofText? text := by
  rw [ofText?, ofText?, spaced.tokens?_eq]

end Scaledown.Json
