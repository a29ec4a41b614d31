/-
This file tells which texts are read as durations.
-/

import Scaledown.Duration
import Scaledown.Proofs.Text.Decimal

namespace Scaledown

/-- These are the numbers of the characters with the Unicode property White_Space. -/
def Text.whiteSpace : List Nat :=
  [0x9, 0xA, 0xB, 0xC, 0xD, 0x20, 0x85, 0xA0, 0x1680, 0x2000, 0x2001, 0x2002, 0x2003, 0x2004,
    0x2005, 0x2006, 0x2007, 0x2008, 0x2009, 0x200A, 0x2028, 0x2029, 0x202F, 0x205F, 0x3000]

theorem Text.isBlank_eq (c : Char) : isBlank c = decide (c.toNat ∈ whiteSpace) := by
  rw [Bool.eq_iff_iff, decide_eq_true_eq]
  simp only [isBlank, whiteSpace, Bool.or_eq_true, Bool.and_eq_true, decide_eq_true_eq, beq_iff_eq,
    List.mem_cons, List.not_mem_nil, or_false]
  omega

namespace Duration

/-- A count is followed by the letters of its unit, and a bare count counts seconds. -/
inductive Suffix where
  | bare
  | seconds
  | milliseconds
  | minutes
  deriving DecidableEq, Repr

namespace Suffix

def letters : Suffix → List Char
  | bare => []
  | seconds => ['s']
  | milliseconds => ['m', 's']
  | minutes => ['m']

/-- A unit lasts this number of milliseconds. -/
def millis : Suffix → Nat
  | bare => 1000
  | seconds => 1000
  | milliseconds => 1
  | minutes => 60 * 1000

theorem letters_injective : Function.Injective letters := by
  intro one other same
  cases one <;> cases other <;> first | rfl | cases same

def unit : Suffix → TimeUnit
  | bare => .second
  | seconds => .second
  | milliseconds => .millisecond
  | minutes => .minute

/-- A count that does not end with a letter of a unit is cut from every suffix. -/
theorem cut_append {count : List Char} (plain : ∀ letter ∈ ['s', 'm'], letter ∉ count.getLast?)
    (suffix : Suffix) : TimeUnit.cut (count ++ suffix.letters) = (count, suffix.unit) := by
  have second : Text.dropEnd? ['s'] count = none :=
    Text.dropEnd?_singleton_eq_none (plain 's' (by decide))
  have minute : Text.dropEnd? ['m'] count = none :=
    Text.dropEnd?_singleton_eq_none (plain 'm' (by decide))
  cases suffix with
  | bare => simp only [TimeUnit.cut, letters, List.append_nil, second, minute, unit]
  | seconds => simp only [TimeUnit.cut, letters, Text.dropEnd?_append, minute, unit]
  | milliseconds =>
    have last : count ++ ['m', 's'] = count ++ ['m'] ++ ['s'] := by simp
    simp only [TimeUnit.cut, letters, last, Text.dropEnd?_append, unit]
  | minutes =>
    have other : Text.dropEnd? ['s'] (count ++ ['m']) = none :=
      Text.dropEnd?_singleton_eq_none (by simp)
    simp only [TimeUnit.cut, letters, other, Text.dropEnd?_append, unit]

/-- What is cut off is a suffix of its unit. -/
theorem exists_of_cut (text : List Char) : ∃ suffix : Suffix,
    text = (TimeUnit.cut text).1 ++ suffix.letters ∧ (TimeUnit.cut text).2 = suffix.unit := by
  unfold TimeUnit.cut
  split
  · rename_i front second
    rw [Text.dropEnd?_eq_some_iff.1 second]
    split
    · rename_i count minute
      rw [Text.dropEnd?_eq_some_iff.1 minute]
      exact ⟨milliseconds, by simp [letters], rfl⟩
    · exact ⟨seconds, rfl, rfl⟩
  · split
    · rename_i count minute
      exact ⟨minutes, Text.dropEnd?_eq_some_iff.1 minute, rfl⟩
    · exact ⟨bare, (List.append_nil _).symm, rfl⟩

end Suffix

/-- A duration is spelled with at most one plus sign, with the digits of a number of sixty-four
bits and with a suffix. -/
@[ext]
structure Spelling where
  signed : Bool
  digits : List Char
  suffix : Suffix
  counted : digits ≠ []
  decimal : ∀ c ∈ digits, c.isDigit = true
  bounded : Nat.ofDigitChars 10 digits 0 ≤ 2 ^ 64 - 1

namespace Spelling

variable (spelling : Spelling)

def sign : List Char :=
  if spelling.signed then ['+'] else []

/-- Nothing stands between the sign, the digits and the suffix. -/
def text : List Char :=
  spelling.sign ++ spelling.digits ++ spelling.suffix.letters

def count : Nat :=
  Nat.ofDigitChars 10 spelling.digits 0

def duration : Duration :=
  ⟨spelling.count * spelling.suffix.millis⟩

theorem plus_not_mem_digits : '+' ∉ spelling.digits := by
  intro inside
  exact absurd (spelling.decimal '+' inside) (by decide)

/-- The seconds of a duration in minutes are a number of sixty-four bits too. -/
def InRange : Prop :=
  spelling.suffix = .minutes → spelling.count * 60 ≤ 2 ^ 64 - 1

/-- Every count ends with a digit. -/
theorem cut_text : TimeUnit.cut spelling.text =
    (spelling.sign ++ spelling.digits, spelling.suffix.unit) := by
  refine Suffix.cut_append (fun letter known last => ?_) spelling.suffix
  rw [List.getLast?_append_of_ne_nil _ spelling.counted] at last
  have digit := spelling.decimal letter (List.mem_of_mem_getLast? last)
  simp only [List.mem_cons, List.not_mem_nil, or_false] at known
  rcases known with rfl | rfl <;> exact absurd digit (by decide)

theorem sign_digits_injective {one other : Spelling}
    (same : one.sign ++ one.digits = other.sign ++ other.digits) :
    one.signed = other.signed ∧ one.digits = other.digits := by
  have plain := one.plus_not_mem_digits
  have plain' := other.plus_not_mem_digits
  unfold sign at same
  cases first : one.signed <;> cases second : other.signed <;>
    simp only [first, second, if_true, if_false, Bool.false_eq_true, List.nil_append,
      List.singleton_append, List.cons.injEq, true_and] at same
  · exact ⟨rfl, same⟩
  · rw [same] at plain
    exact absurd List.mem_cons_self plain
  · rw [← same] at plain'
    exact absurd List.mem_cons_self plain'
  · exact ⟨rfl, same⟩

/-- A text has one spelling at most. -/
theorem text_injective : Function.Injective text := by
  intro one other same
  have cuts := congrArg (fun text => (TimeUnit.cut text).1) same
  simp only [cut_text] at cuts
  obtain ⟨signed, digits⟩ := sign_digits_injective cuts
  rw [text, text, cuts] at same
  exact Spelling.ext signed digits (Suffix.letters_injective (List.append_cancel_left same))

theorem ofCount?_eq (inRange : spelling.InRange) :
    ofCount? spelling.count spelling.suffix.unit = some spelling.duration := by
  unfold InRange at inRange
  unfold duration
  cases suffix : spelling.suffix with
  | bare => rfl
  | seconds => rfl
  | milliseconds => rw [Suffix.millis, Nat.mul_one]; rfl
  | minutes => rw [Suffix.millis, ← Nat.mul_assoc]; exact if_pos (inRange suffix)

/-- The digits of a spelling are read as its count. -/
theorem decimal_eq : Text.decimal Text.maxWord64 (spelling.sign ++ spelling.digits) =
    .ok spelling.count := by
  refine Text.decimal_eq_ok_iff.2 ⟨spelling.sign, spelling.digits, rfl, ?_, spelling.counted,
    spelling.decimal, rfl, spelling.bounded⟩
  unfold sign
  split
  · exact .inr rfl
  · exact .inl rfl

end Spelling

/-- What is read as a duration is spelled as one. -/
theorem exists_spelling {text : String} {duration : Duration}
    (read : ofText? text = some duration) :
    ∃ spelling : Spelling, spelling.text = Text.trim text.toList := by
  obtain ⟨suffix, whole, -⟩ := Suffix.exists_of_cut (Text.trim text.toList)
  obtain ⟨value, number⟩ : ∃ value,
      Text.decimal Text.maxWord64 (TimeUnit.cut (Text.trim text.toList)).1 = .ok value := by
    cases number : Text.decimal Text.maxWord64 (TimeUnit.cut (Text.trim text.toList)).1 with
    | ok value => exact ⟨value, rfl⟩
    | error fault => simp [ofText?, number, Except.toOption] at read
  obtain ⟨sign, digits, cut, signed, counted, decimal, rfl, bounded⟩ :=
    Text.decimal_eq_ok_iff.1 number
  refine ⟨⟨decide (sign ≠ []), digits, suffix, counted, decimal, bounded⟩, ?_⟩
  rw [whole, cut]
  rcases signed with rfl | rfl <;> rfl

/-- A spelling that is in range is read as its duration. -/
theorem ofText?_of_spelling {text : String} (spelling : Spelling) (inRange : spelling.InRange)
    (whole : spelling.text = Text.trim text.toList) :
    ofText? text = some spelling.duration := by
  rw [ofText?, ← whole, spelling.cut_text]
  dsimp only
  rw [spelling.decimal_eq, Except.toOption, Option.bind_eq_bind, Option.bind_some,
    spelling.ofCount?_eq inRange]

/-- A text is read as a duration exactly when it is spelled as one, apart from the white space
around it and as long as its seconds fit into sixty-four bits. There is one such spelling at most,
and it tells the duration. -/
theorem ofText?_follows_grammar (text : String) :
    ∃ trimmed, Text.Trims (fun c => decide (c.toNat ∈ Text.whiteSpace)) text.toList trimmed ∧
      ((∀ spelling : Spelling, spelling.text = trimmed → spelling.InRange) →
        ∀ duration, ofText? text = some duration ↔
          ∃ spelling : Spelling, spelling.text = trimmed ∧ spelling.duration = duration) ∧
      Function.Injective Spelling.text := by
  refine ⟨Text.trim text.toList, ?_, fun inRange duration => ⟨fun read => ?_, ?_⟩,
    Spelling.text_injective⟩
  · rw [← funext Text.isBlank_eq]
    exact Text.trims_trimBy _ _
  · obtain ⟨spelling, whole⟩ := exists_spelling read
    have own := ofText?_of_spelling spelling (inRange spelling whole) whole
    exact ⟨spelling, whole, Option.some.inj (own.symm.trans read)⟩
  · rintro ⟨spelling, whole, rfl⟩
    exact ofText?_of_spelling spelling (inRange spelling whole) whole

example : ofText? " +07m\n" = some ⟨420000⟩ ∧ ofText? "7 ms" = none ∧ ofText? "ms" = none := by
  decide

end Duration

end Scaledown
