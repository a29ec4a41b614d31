/-
This file shows that the text around a message neither hides throttling nor makes it up.
-/

import Scaledown.Compute.Outcome
import Scaledown.Proofs.Text.Case

namespace Scaledown.Compute

open Text

/-- A message is throttling when one of the signs stands in it, in whatever case of its letters. -/
theorem isThrottling_iff (message : String) :
    isThrottling message = true ↔ ∃ sign ∈ throttlingSigns, ∃ piece, piece <:+: message.toList ∧
      List.Forall₂ SameLetter piece sign.toList := by
  have small : ∀ sign ∈ throttlingSigns, lower sign.toList = sign.toList := by decide
  rw [isThrottling, List.any_eq_true]
  refine exists_congr fun sign => and_congr_right fun known => ?_
  rw [contains_eq_true_iff, lower, List.infix_map_iff]
  refine exists_congr fun piece => and_congr_right fun _ => ?_
  rw [← lower_eq_lower_iff, small sign known, eq_comm, lower]

/-- A sign has no colon and does not start with a blank, so it stands on one side of both. -/
theorem sign_infix_append_iff {sign : String} (known : sign ∈ throttlingSigns)
    (heading text : List Char) :
    sign.toList <:+: heading ++ ':' :: ' ' :: text ↔
      sign.toList <:+: heading ∨ sign.toList <:+: text := by
  have shape : ∀ sign ∈ throttlingSigns,
      ':' ∉ sign.toList ∧ sign.toList ≠ [] ∧ sign.toList.head? ≠ some ' ' := by
    decide
  obtain ⟨colon, nonempty, first⟩ := shape sign known
  rw [infix_append_cons_iff colon, List.infix_cons_iff,
    or_iff_right (not_prefix_cons nonempty first)]

/-- A heading without signs in it changes nothing. -/
theorem isThrottling_append {lead : String} {heading : List Char}
    (cut : lead.toList = heading ++ [':', ' '])
    (quiet : ∀ sign ∈ throttlingSigns, ¬ sign.toList <:+: lower heading) (text : String) :
    isThrottling (lead ++ text) = isThrottling text := by
  have written : lower (lead ++ text).toList = lower heading ++ ':' :: ' ' :: lower text.toList := by
    rw [String.toList_append, cut, lower_append, lower_append, List.append_assoc]
    rfl
  rw [Bool.eq_iff_iff, isThrottling, isThrottling, List.any_eq_true, List.any_eq_true]
  refine exists_congr fun sign => and_congr_right fun known => ?_
  rw [contains_eq_true_iff, contains_eq_true_iff, written, sign_infix_append_iff known,
    or_iff_right (quiet sign known)]

theorem not_mem_statusHeading {c : Char} (outside : c ∉ lower "compute api returned ".toList)
    (letter : c.isDigit = false) (status : Nat) :
    c ∉ lower ("compute api returned ".toList ++ (Nat.repr status).toList) := by
  rw [lower_append, lower_repr, List.mem_append, not_or]
  refine ⟨outside, fun number => ?_⟩
  rw [isDigit_of_mem_repr number] at letter
  cases letter

/-- Every sign has a letter that stands neither in the words before the status nor in a number. -/
theorem statusHeading_quiet (status : Nat) : ∀ sign ∈ throttlingSigns,
    ¬ sign.toList <:+: lower ("compute api returned ".toList ++ (Nat.repr status).toList) := by
  intro sign known inside
  have strange : ∀ sign ∈ throttlingSigns, 'l' ∈ sign.toList ∨ 'q' ∈ sign.toList := by decide
  rcases strange sign known with held | held
  · exact not_mem_statusHeading (by decide) (by decide) status (inside.subset held)
  · exact not_mem_statusHeading (by decide) (by decide) status (inside.subset held)

namespace Error

/-- This text was given with the error. -/
def detail : Error → String
  | transport detail => detail
  | rejected _ message => message
  | unauthorized detail => detail
  | undecodable detail => detail

/-- An error is throttling exactly when the text that was given with it is. -/
theorem isThrottling_eq (error : Error) : error.isThrottling = Compute.isThrottling error.detail := by
  cases error with
  | transport detail =>
    have cut : "http transport error: ".toList = "http transport error".toList ++ [':', ' '] := rfl
    exact isThrottling_append cut (by decide) detail
  | rejected status message =>
    have cut : ("compute api returned " ++ Nat.repr status ++ ": ").toList =
        ("compute api returned ".toList ++ (Nat.repr status).toList) ++ [':', ' '] := by
      rw [String.toList_append, String.toList_append]
      rfl
    exact isThrottling_append cut (statusHeading_quiet status) message
  | unauthorized detail =>
    have cut : "failed to obtain access token: ".toList =
        "failed to obtain access token".toList ++ [':', ' '] := rfl
    exact isThrottling_append cut (by decide) detail
  | undecodable detail =>
    have cut : "failed to decode response: ".toList =
        "failed to decode response".toList ++ [':', ' '] := rfl
    exact isThrottling_append cut (by decide) detail

end Error

/-- A text is throttling exactly when one of the two signs stands in it, and a call that fails with
this text is classified as the text itself, whatever its status is. -/
theorem wrapped_message_keeps_throttling (status : Nat) (message : String) :
    (isThrottling message = true ↔ ∃ piece, piece <:+: message.toList ∧
        (List.Forall₂ SameLetter piece "rate limit".toList ∨
          List.Forall₂ SameLetter piece "quota exceeded".toList)) ∧
      ((Error.rejected status message).isThrottling = true ↔ isThrottling message = true) ∧
      ((Error.unauthorized message).isThrottling = true ↔ isThrottling message = true) ∧
      ((Error.undecodable message).isThrottling = true ↔ isThrottling message = true) := by
  refine ⟨?_, ?_, ?_, ?_⟩
  · rw [isThrottling_iff]
    constructor
    · rintro ⟨sign, known, piece, inside, same⟩
      rw [throttlingSigns, List.mem_pair] at known
      rcases known with rfl | rfl
      · exact ⟨piece, inside, .inl same⟩
      · exact ⟨piece, inside, .inr same⟩
    · rintro ⟨piece, inside, same | same⟩
      · exact ⟨_, by decide, piece, inside, same⟩
      · exact ⟨_, by decide, piece, inside, same⟩
  · rw [Error.isThrottling_eq, Error.detail]
  · rw [Error.isThrottling_eq, Error.detail]
  · rw [Error.isThrottling_eq, Error.detail]

end Scaledown.Compute
