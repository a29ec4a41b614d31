/-
This file shows that a batch answer is read back part by part.
-/

import Scaledown.Compute.Answer
import Scaledown.Proofs.Batch.Part
import Scaledown.Proofs.Table

namespace Scaledown.Batch

open Text

/-- These characters make up a boundary that needs no quotes and no spaces. -/
def isBoundaryChar (c : Char) : Bool :=
  c.isAlphanum || "'()+_,-./:=?".toList.contains c

theorem isBlank_of_isBoundaryChar {c : Char} (allowed : isBoundaryChar c = true) :
    isBlank c = false := by
  rcases Bool.or_eq_true_iff.1 allowed with letterOrDigit | sign
  · rcases Bool.or_eq_true_iff.1 letterOrDigit with letter | digit
    · rcases Bool.or_eq_true_iff.1 letter with upper | small
      · obtain ⟨low, high⟩ : 65 ≤ c.toNat ∧ c.toNat ≤ 90 := of_decide_eq_true upper
        exact isBlank_of_visible (by omega) (by omega)
      · obtain ⟨low, high⟩ := Bool.and_eq_true_iff.1 small
        have first : 97 ≤ c.toNat := of_decide_eq_true low
        have last : c.toNat ≤ 122 := of_decide_eq_true high
        exact isBlank_of_visible (by omega) (by omega)
    · exact isBlank_of_isDigit digit
  · have solid : Solid "'()+_,-./:=?".toList := by decide
    exact solid c (List.contains_iff_mem.1 sign)

/-- No line end stands in a boundary, so no boundary reaches over one. -/
structure Boundary where
  text : List Char
  nonempty : text ≠ []
  allowed : text.all isBoundaryChar = true

namespace Boundary

variable (boundary : Boundary)

def delimiter : List Char := "--".toList ++ boundary.text

theorem not_mem_text {c : Char} (other : isBoundaryChar c = false) : c ∉ boundary.text := by
  intro inside
  rw [List.all_eq_true.1 boundary.allowed c inside] at other
  cases other

theorem not_mem_delimiter {c : Char} (other : isBoundaryChar c = false) :
    c ∉ boundary.delimiter := by
  intro inside
  rcases List.mem_append.1 inside with dash | inside
  · obtain rfl : c = '-' := by simpa using dash
    cases other
  · exact boundary.not_mem_text other inside

theorem delimiter_ne_nil : boundary.delimiter ≠ [] := by
  simp [delimiter]

/-- This is what follows a delimiter. -/
def writeRest (ending : List Char) : List Part → List Char
  | [] => "--".toList ++ ending
  | part :: parts => part.write ++ (boundary.delimiter ++ writeRest ending parts)

/-- Each part follows a delimiter, and the last delimiter is closed. -/
def write (ending : List Char) (parts : List Part) : List Char :=
  boundary.delimiter ++ boundary.writeRest ending parts

/-- The message is cut where its delimiters were written. -/
theorem cutAll_writeRest {ending : List Char} {parts : List Part}
    (closed : ¬ boundary.delimiter <:+: "--".toList ++ ending)
    (absent : ∀ part ∈ parts, ¬ boundary.delimiter <:+: part.write) :
    cutAll boundary.delimiter (boundary.writeRest ending parts) =
      parts.map Part.write ++ ["--".toList ++ ending] := by
  induction parts with
  | nil => exact cutAll_of_eq_none (cutFirst?_eq_none closed)
  | cons part parts ih =>
    obtain ⟨front, last⟩ := part.exists_write_eq
    have outside : '\n' ∉ boundary.delimiter := boundary.not_mem_delimiter (by decide)
    have within : ¬ boundary.delimiter <:+: front := fun inside =>
      absent part List.mem_cons_self (inside.trans ⟨[], ['\n'], last.symm⟩)
    have found := cutFirst?_after_line outside within (boundary.writeRest ending parts)
    have later := ih fun other inside => absent other (List.mem_cons_of_mem _ inside)
    rw [writeRest, last, List.append_assoc, List.singleton_append,
      cutAll_of_eq_some boundary.delimiter_ne_nil found, later, ← last]
    rfl

theorem readPart?_closing (ending : List Char) : readPart? ("--".toList ++ ending) = none := by
  simp [readPart?, trimStartBy, dropStart?]

/-- The closing dashes are too few for a delimiter, even for one that is all dashes. -/
theorem not_delimiter_infix_closing {ending : List Char} (ended : ending = [] ∨ ending = lineEnd) :
    ¬ boundary.delimiter <:+: "--".toList ++ ending := by
  intro inside
  have within : boundary.delimiter <:+: "--".toList ++ lineEnd := by
    rcases ended with rfl | rfl
    · exact inside.trans (List.prefix_append_right_inj _ |>.2 List.nil_prefix).isInfix
    · exact inside
  have dashes : ∀ c ∈ boundary.delimiter, '-' = c := by
    intro c mem
    have other : c = '-' ∨ c = '\r' ∨ c = '\n' := by simpa [lineEnd] using within.subset mem
    rcases other with rfl | rfl | rfl
    · rfl
    · exact absurd mem (boundary.not_mem_delimiter (by decide))
    · exact absurd mem (boundary.not_mem_delimiter (by decide))
  have most := within.sublist.count_le '-'
  rw [List.count_eq_length.2 dashes] at most
  have positive := List.length_pos_iff.2 boundary.nonempty
  have length : boundary.delimiter.length = 2 + boundary.text.length := by
    rw [delimiter, List.length_append]
    rfl
  have two : ("--".toList ++ lineEnd).count '-' = 2 := by decide
  omega

/-- A message is read as its parts were written. -/
theorem readResponses_write {ending : List Char} {parts : List Part}
    (ended : ending = [] ∨ ending = lineEnd)
    (absent : ∀ part ∈ parts, ¬ boundary.delimiter <:+: part.write) :
    readResponses (String.ofList (boundary.write ending parts)) (String.ofList boundary.text) =
      parts.map Part.response := by
  -- Nothing stands before the first delimiter, and the last piece closes the message.
  have first := cutFirst?_append_self boundary.delimiter (boundary.writeRest ending parts)
  have pieces := boundary.cutAll_writeRest (boundary.not_delimiter_infix_closing ended) absent
  have empty : readPart? [] = none := rfl
  have read : readPart? ∘ Part.write = some ∘ Part.response := funext Part.readPart?_write
  simp only [readResponses, String.toList_ofList]
  change (cutAll boundary.delimiter (boundary.write ending parts)).filterMap readPart? = _
  rw [write, cutAll_of_eq_some boundary.delimiter_ne_nil first, pieces,
    List.filterMap_cons_none empty, List.filterMap_append, List.filterMap_map, read,
    List.filterMap_eq_map, List.filterMap_cons_none (readPart?_closing ending),
    List.filterMap_nil, List.append_nil]

end Boundary

/-- The boundary is one of the parameters of a content type, with or without quotes. -/
structure ContentType where
  kind : List Char
  kindLetters : sameLetters kind "multipart/mixed".toList = true
  gap : List Char
  gapBlank : IsGap gap
  quoted : Bool
  before : List (List Char)
  after : List (List Char)
  apart : ∀ parameter ∈ before ++ after, ';' ∉ parameter
  others : ∀ parameter ∈ before, ¬ "boundary=".toList <+: trim parameter

namespace ContentType

variable (contentType : ContentType) (boundary : Boundary)

def value : List Char :=
  if contentType.quoted then '"' :: boundary.text ++ ['"'] else boundary.text

def parameters : List (List Char) :=
  contentType.before ++
    (contentType.gap ++ ("boundary=".toList ++ contentType.value boundary)) :: contentType.after

/-- Each parameter follows a semicolon. -/
def write : List Char :=
  contentType.kind ++ (contentType.parameters boundary).flatMap (';' :: ·)

theorem trimBy_value : trimBy (· == '"') (contentType.value boundary) = boundary.text := by
  have bare : ∀ c ∈ boundary.text, (c == '"') = false := by
    intro c inside
    have differs : c ≠ '"' := by
      rintro rfl
      exact boundary.not_mem_text (by decide) inside
    simpa using differs
  have kept : trimBy (· == '"') boundary.text = boundary.text :=
    trimBy_eq_self (fun c first => bare c (List.mem_of_mem_head? first))
      fun c last => bare c (List.mem_of_mem_getLast? last)
  have quotes : ['"'].all (· == '"') = true := by decide
  rw [value]
  split
  · exact (trimBy_append_of_all quotes).trans ((trimBy_of_all_append quotes).trans kept)
  · exact kept

theorem mem_value {c : Char} (inside : c ∈ contentType.value boundary) :
    c = '"' ∨ isBoundaryChar c = true := by
  rw [value] at inside
  split at inside
  · rcases List.mem_append.1 inside with opened | closed
    · rcases List.mem_cons.1 opened with rfl | within
      · exact .inl rfl
      · exact .inr (List.all_eq_true.1 boundary.allowed c within)
    · exact .inl (List.mem_singleton.1 closed)
  · exact .inr (List.all_eq_true.1 boundary.allowed c inside)

theorem trim_parameter :
    trim (contentType.gap ++ ("boundary=".toList ++ contentType.value boundary)) =
      "boundary=".toList ++ contentType.value boundary := by
  have key : Solid "boundary=".toList := by decide
  have value : Solid (contentType.value boundary) := by
    intro c inside
    rcases contentType.mem_value boundary inside with rfl | allowed
    · decide
    · exact isBlank_of_isBoundaryChar allowed
  rw [trim, trimBy_of_all_append contentType.gapBlank.all_isBlank]
  exact trim_eq_self (key.append value)

theorem semicolon_not_mem_of_mem_parameters :
    ∀ parameter ∈ contentType.parameters boundary, ';' ∉ parameter := by
  intro parameter inside
  rcases List.mem_append.1 inside with before | here
  · exact contentType.apart parameter (List.mem_append_left _ before)
  · rcases List.mem_cons.1 here with rfl | after
    · intro semicolon
      rcases List.mem_append.1 semicolon with gap | semicolon
      · exact contentType.gapBlank.not_mem (by decide) gap
      · rcases List.mem_append.1 semicolon with key | value
        · exact absurd key (by decide)
        · rcases contentType.mem_value boundary value with same | allowed
          · cases same
          · cases allowed
    · exact contentType.apart parameter (List.mem_append_right _ after)

/-- The parameters before the boundary are passed over, and those after it are not reached. -/
theorem findSome?_parameters :
    ((contentType.parameters boundary).map trim).findSome? (dropStart? "boundary=".toList) =
      some (contentType.value boundary) := by
  have missing : ∀ text ∈ contentType.before.map trim,
      dropStart? "boundary=".toList text = none := by
    intro text written
    obtain ⟨parameter, inside, rfl⟩ := List.mem_map.1 written
    exact dropStart?_eq_none (contentType.others parameter inside)
  rw [parameters, List.map_append, List.findSome?_append, List.findSome?_eq_none_iff.2 missing,
    Option.none_or, List.map_cons, List.findSome?_cons, trim_parameter, dropStart?_append]

/-- The boundary is found among the parameters, in either of its forms. -/
theorem boundaryOf?_write :
    boundaryOf? (String.ofList (contentType.write boundary)) =
      some (String.ofList boundary.text) := by
  have solid : Solid contentType.kind := solid_of_sameLetters contentType.kindLetters (by decide)
  have outside : ';' ∉ contentType.kind :=
    not_mem_of_sameLetters contentType.kindLetters rfl (by decide)
  have found := contentType.findSome?_parameters boundary
  have apart := contentType.semicolon_not_mem_of_mem_parameters boundary
  obtain ⟨first, rest, same⟩ : ∃ first rest, contentType.parameters boundary = first :: rest :=
    List.exists_cons_of_ne_nil (by simp [parameters])
  have written : contentType.write boundary =
      contentType.kind ++ ';' :: (first ++ rest.flatMap (';' :: ·)) := by
    simp [write, same]
  rw [same] at found apart
  obtain ⟨here, others⟩ := List.forall_mem_cons.1 apart
  rw [boundaryOf?, String.toList_ofList, written, cutFirst?_singleton outside]
  simp only [Option.bind_eq_bind, Option.bind_some, trim_eq_self solid, contentType.kindLetters,
    if_true, cutAll_flatMap_cons here others, found, trimBy_value, boundary.nonempty, if_false]

end ContentType

/-- A header of the answer is read when it holds visible characters and tabs only. -/
def Visible (text : List Char) : Prop :=
  ∀ c ∈ text, 0x20 ≤ c.toNat ∧ c.toNat < 0x7F ∨ c = '\t'

instance (text : List Char) : Decidable (Visible text) :=
  List.decidableBAll _ text

/-- A batch answer is read as it was written. Each part tells the outcome of its own call, and
neither its body nor the place of its identifier can change this. -/
theorem written_answer_is_read_back (boundary : Boundary) {ending : List Char}
    {parts : List Part} (ended : ending = [] ∨ ending = lineEnd)
    (absent : ∀ part ∈ parts, ¬ boundary.delimiter <:+: part.write) :
    readResponses (String.ofList (boundary.write ending parts)) (String.ofList boundary.text) =
        parts.map (fun part =>
          ⟨String.ofList part.id, part.status, String.ofList (trim part.body)⟩) ∧
      (∀ contentType : ContentType,
        boundaryOf? (String.ofList (contentType.write boundary)) =
          some (String.ofList boundary.text)) ∧
      ∀ (contentType : ContentType) (response : Http.Response), response.succeeded = true →
        response.contentType = some (String.ofList (contentType.write boundary)) →
        Visible (contentType.write boundary) →
        response.body.map Text.ofBytesLossy =
          some (String.ofList (boundary.write ending parts)) →
        (parts.map Part.id).Nodup →
        Compute.readBatch response = .ok (parts.map fun part =>
          (String.ofList part.id, Compute.outcomeOf part.response)) := by
  have read := boundary.readResponses_write ended absent
  refine ⟨read, fun contentType => contentType.boundaryOf?_write boundary, ?_⟩
  intro contentType response succeeded kind visible body distinct
  have found : Compute.boundaryOfAnswer? response = some (String.ofList boundary.text) := by
    have all : (contentType.write boundary).all (fun c =>
        (0x20 ≤ c.toNat && c.toNat < 0x7F) || c == '\t') = true := by
      simpa [Visible] using visible
    simp only [Compute.boundaryOfAnswer?, kind, Option.bind_eq_bind, Option.bind_some,
      String.toList_ofList, all, if_true, contentType.boundaryOf?_write boundary]
  obtain ⟨bytes, given, decoded⟩ := Option.map_eq_some_iff.1 body
  have keys : ((parts.map fun part =>
      (String.ofList part.id, Compute.outcomeOf part.response)).map Prod.fst).Nodup := by
    rw [List.map_map]
    have apart := distinct.map fun _ _ => String.ofList_injective
    rwa [List.map_map] at apart
  have table := @Table.putAll_eq_append _ [] _ keys
  simp only [Compute.readBatch, succeeded, found, given, decoded, Compute.outcomesOf, read,
    List.map_map]
  exact congrArg Except.ok table

/-- The identifier of one part follows another header line, and that of the other comes first. The
body of the first part looks like more header lines. -/
def twoParts : List Part :=
  [{ id := "node-0".toList
     idOnOneLine := by decide
     idEnd := by decide
     status := 200
     statusBound := by decide
     reason := "OK".toList
     reasonOnOneLine := by decide
     headers := [⟨"Content-Type: application/json".toList, by decide, by decide⟩]
     body := "\x7b\x7d\r\n\r\nContent-ID: <response-node-1>\r\n".toList
     key := "Content-ID".toList
     keyLetters := by decide
     gap := [' ']
     gapBlank := by decide
     before := [⟨"Content-Type: application/http".toList, by decide, by decide⟩]
     after := []
     others := by decide },
   { id := "".toList
     idOnOneLine := by decide
     idEnd := by decide
     status := 65535
     statusBound := by decide
     reason := []
     reasonOnOneLine := by decide
     headers := []
     body := []
     key := "content-iD".toList
     keyLetters := by decide
     gap := []
     gapBlank := by decide
     before := []
     after := [⟨"Content-Type".toList, by decide, by decide⟩]
     others := by decide }]

def plainBoundary : Boundary :=
  ⟨"batch_7".toList, by decide, by decide⟩

def quotedType : ContentType where
  kind := "Multipart/Mixed".toList
  kindLetters := by decide
  gap := [' ']
  gapBlank := by decide
  quoted := true
  before := [" charset=utf-8".toList]
  after := []
  apart := by decide
  others := by decide

/-- Every character of this answer is one byte. -/
def twoPartAnswer : Http.Response :=
  ⟨200, some (String.ofList (quotedType.write plainBoundary)),
    some ((plainBoundary.write lineEnd twoParts).map fun c => c.toNat.toUInt8)⟩

theorem written_answer_is_read_back_twoParts :
    (∀ part ∈ twoParts, ¬ plainBoundary.delimiter <:+: part.write) ∧
      readResponses (String.ofList (plainBoundary.write lineEnd twoParts))
          (String.ofList plainBoundary.text) =
        twoParts.map (fun part =>
          ⟨String.ofList part.id, part.status, String.ofList (trim part.body)⟩) ∧
      boundaryOf? (String.ofList (quotedType.write plainBoundary)) =
        some (String.ofList plainBoundary.text) ∧
      Compute.readBatch twoPartAnswer = .ok (twoParts.map fun part =>
        (String.ofList part.id, Compute.outcomeOf part.response)) := by
  have absent : ∀ part ∈ twoParts, ¬ plainBoundary.delimiter <:+: part.write := by
    decide +kernel
  have decoded : twoPartAnswer.body.map Text.ofBytesLossy =
      some (String.ofList (plainBoundary.write lineEnd twoParts)) := by
    have pieces : (Text.pieces ((plainBoundary.write lineEnd twoParts).map fun c =>
        c.toNat.toUInt8)).map (fun piece => piece.getD '\ufffd') =
          plainBoundary.write lineEnd twoParts := by
      decide +kernel
    exact congrArg (fun text => some (String.ofList text)) pieces
  obtain ⟨read, found, answered⟩ := written_answer_is_read_back plainBoundary (.inr rfl) absent
  exact ⟨absent, read, found quotedType,
    answered quotedType twoPartAnswer rfl rfl (by decide) decoded (by decide)⟩

end Scaledown.Batch
