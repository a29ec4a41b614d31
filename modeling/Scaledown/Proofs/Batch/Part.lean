/-
This file shows that one part of a batch answer is read as it was written.
-/

import Scaledown.Batch.Response
import Scaledown.Proofs.Text.Decimal

namespace Scaledown.Batch

open Text

def lineEnd : List Char := ['\r', '\n']

/-- A text stays on one line when no end of a line stands in it. -/
def OnOneLine (text : List Char) : Prop :=
  ∀ c ∈ text, c ≠ '\r' ∧ c ≠ '\n'

instance (text : List Char) : Decidable (OnOneLine text) :=
  List.decidableBAll _ text

theorem OnOneLine.noReturn {text : List Char} (within : OnOneLine text) : '\r' ∉ text :=
  fun inside => (within _ inside).1 rfl

theorem OnOneLine.noFeed {text : List Char} (within : OnOneLine text) : '\n' ∉ text :=
  fun inside => (within _ inside).2 rfl

theorem OnOneLine.append {former latter : List Char} (first : OnOneLine former)
    (second : OnOneLine latter) : OnOneLine (former ++ latter) :=
  List.forall_mem_append.2 ⟨first, second⟩

theorem OnOneLine.cons {c : Char} {text : List Char} (first : c ≠ '\r' ∧ c ≠ '\n')
    (second : OnOneLine text) : OnOneLine (c :: text) :=
  List.forall_mem_cons.2 ⟨first, second⟩

/-- A line of a head stands apart from the empty line after the head. -/
structure Line where
  text : List Char
  nonempty : text ≠ []
  onOneLine : OnOneLine text

section Lines

variable (line next : Line) (others : List Line)

def writeLines (written : List Line) : List Char :=
  written.flatMap fun line => line.text ++ lineEnd

/-- The last line of a head has no end of its own. -/
def headOf (written : List Line) : List Char :=
  lineEnd.intercalate (written.map Line.text)

theorem writeLines_cons : writeLines (line :: others) =
    line.text ++ '\r' :: '\n' :: writeLines others := by
  simp [writeLines, lineEnd]

theorem headOf_cons_cons : headOf (line :: next :: others) =
    line.text ++ '\r' :: '\n' :: headOf (next :: others) := by
  simp [headOf, lineEnd, List.intercalate_cons_cons]

/-- No line starts with the end of a line. -/
theorem head?_writeLines {written : List Line} (nonempty : written ≠ []) {c : Char}
    {rest : List Char} (first : c ∈ (writeLines written ++ rest).head?) : c ≠ '\r' ∧ c ≠ '\n' := by
  obtain ⟨line, others, rfl⟩ := List.exists_cons_of_ne_nil nonempty
  obtain ⟨d, text, same⟩ := List.exists_cons_of_ne_nil line.nonempty
  obtain rfl : d = c := by simpa [writeLines_cons, same] using first
  exact line.onOneLine d (same ▸ List.mem_cons_self)

/-- The end of a line before another line is not the start of an empty line. -/
theorem not_emptyLine_start {written : List Line} (nonempty : written ≠ []) (rest : List Char) :
    ¬ "\r\n\r\n".toList <+: '\r' :: '\n' :: (writeLines written ++ rest) := by
  rintro ⟨tail, same⟩
  have first : '\r' ∈ (writeLines written ++ rest).head? := by
    have later : '\r' :: '\n' :: tail = writeLines written ++ rest := by simpa using same
    rw [← later]
    rfl
  exact (head?_writeLines nonempty first).1 rfl

/-- The first empty line after some lines is the one that was written there. -/
theorem cutHead?_writeLines {written : List Line} (nonempty : written ≠ []) (rest : List Char) :
    cutHead? (writeLines written ++ (lineEnd ++ rest)) = some (headOf written, rest) := by
  have found : cutFirst? "\r\n\r\n".toList (writeLines written ++ (lineEnd ++ rest)) =
      some (headOf written, rest) := by
    induction written with
    | nil => exact absurd rfl nonempty
    | cons line others ih =>
      -- The search passes the line itself and then tries its end.
      have within := fun text => @cutFirst?_append_of_not_mem ['\n', '\r', '\n'] line.text text
        '\r' line.onOneLine.noReturn
      rw [writeLines_cons, List.append_assoc]
      refine (within _).trans ?_
      cases others with
      | nil =>
        have here := cutFirst?_append_self "\r\n\r\n".toList rest
        refine (congrArg (Option.map _) here).trans ?_
        simp [headOf]
      | cons next others =>
        -- A line follows, so neither character of the line end starts an empty line.
        have second : ¬ "\r\n\r\n".toList <+:
            '\n' :: (writeLines (next :: others) ++ (lineEnd ++ rest)) := by
          simp
        have later := ih (List.cons_ne_nil _ _)
        have here := cutFirst?_cons_of_not_start
          (not_emptyLine_start (List.cons_ne_nil next others) (lineEnd ++ rest))
        rw [cutFirst?_cons_of_not_start second, later] at here
        refine (congrArg (Option.map _) here).trans ?_
        simp [headOf_cons_cons]
  rw [cutHead?, found, Option.some_or]

theorem lines_headOf {written : List Line} (nonempty : written ≠ []) :
    lines (headOf written) = written.map Line.text := by
  induction written with
  | nil => exact absurd rfl nonempty
  | cons line others ih =>
    cases others with
    | nil => simpa [headOf] using lines_eq_singleton line.onOneLine.noFeed line.nonempty
    | cons next others =>
      rw [headOf_cons_cons, lines_append line.onOneLine.noFeed, ih (List.cons_ne_nil _ _)]
      rfl

end Lines

/-- A header line names a call when its key is this one, in any letter case. -/
def IsContentId (text : List Char) : Prop :=
  ∃ key value, text = key ++ ':' :: value ∧ sameLetters (trim key) "content-id".toList = true

/-- The value of a header line with this key. -/
def valueOf? (name line : List Char) : Option (List Char) :=
  (cutFirst? [':'] line).bind fun cut =>
    if sameLetters (trim cut.1) name then some (trim cut.2) else none

theorem header?_eq_findSome? (name headers : List Char) :
    header? name headers = (lines headers).findSome? (valueOf? name) := rfl

theorem valueOf?_append {name key : List Char} (absent : ':' ∉ key)
    (letters : sameLetters (trim key) name = true) (value : List Char) :
    valueOf? name (key ++ ':' :: value) = some (trim value) := by
  rw [valueOf?, cutFirst?_singleton absent, Option.bind_some, if_pos letters]

theorem valueOf?_eq_none {line : List Char} (apart : ¬ IsContentId line) :
    valueOf? "content-id".toList line = none := by
  cases cut : cutFirst? [':'] line with
  | none => rw [valueOf?, cut, Option.bind_none]
  | some pair =>
    have differs : ¬ sameLetters (trim pair.1) "content-id".toList = true := fun same =>
      apart ⟨pair.1, pair.2, by simpa using eq_append_of_cutFirst? cut, same⟩
    rw [valueOf?, cut, Option.bind_some, if_neg differs]

theorem isContentId_iff {line : List Char} :
    IsContentId line ↔ (valueOf? "content-id".toList line).isSome = true := by
  constructor
  · rintro ⟨key, value, rfl, letters⟩
    have absent : ':' ∉ key := by
      intro inside
      rcases mem_trim_or_isBlank inside with kept | blank
      · exact not_mem_of_sameLetters letters rfl (by decide) kept
      · exact absurd blank (by decide)
    rw [valueOf?_append absent letters]
    rfl
  · intro found
    by_contra apart
    rw [valueOf?_eq_none apart] at found
    cases found

instance (line : List Char) : Decidable (IsContentId line) :=
  decidable_of_iff _ isContentId_iff.symm

/-- A gap holds spaces and tabs. -/
def IsGap (text : List Char) : Prop :=
  ∀ c ∈ text, c = ' ' ∨ c = '\t'

instance (text : List Char) : Decidable (IsGap text) :=
  List.decidableBAll _ text

theorem IsGap.not_mem {gap : List Char} (blank : IsGap gap) {c : Char}
    (other : c ≠ ' ' ∧ c ≠ '\t') : c ∉ gap :=
  fun inside => (blank c inside).elim other.1 other.2

theorem IsGap.all_isBlank {gap : List Char} (blank : IsGap gap) : gap.all isBlank = true := by
  refine List.all_eq_true.2 fun c inside => ?_
  rcases blank c inside with rfl | rfl <;> decide

/-- Nothing that stands in angle brackets is trimmed. -/
theorem trim_bracketed {gap : List Char} (blank : IsGap gap) (text : List Char) :
    trim (gap ++ ('<' :: text ++ ['>'])) = '<' :: text ++ ['>'] := by
  rw [trim, trimBy_of_all_append blank.all_isBlank]
  apply trimBy_eq_self
  · intro c first
    obtain rfl : '<' = c := Option.some.inj first
    decide
  · intro c last
    rw [List.getLast?_concat] at last
    obtain rfl : '>' = c := Option.some.inj last
    decide

/-- A part answers one call. Its identifier stands in one of the header lines before the answer
itself, and the line may stand anywhere among them. -/
structure Part where
  id : List Char
  idOnOneLine : OnOneLine id
  idEnd : id.getLast? ≠ some '<' ∧ id.getLast? ≠ some '>'
  status : Nat
  statusBound : status ≤ maxWord16
  reason : List Char
  reasonOnOneLine : OnOneLine reason
  headers : List Line
  body : List Char
  key : List Char
  keyLetters : sameLetters key "content-id".toList = true
  gap : List Char
  gapBlank : IsGap gap
  before : List Line
  after : List Line
  others : ∀ line ∈ before ++ after, ¬ IsContentId line.text ∧ ¬ "--".toList <+: line.text

namespace Part

variable (part : Part)

def answerId : List Char := '<' :: "response-".toList ++ part.id ++ ['>']

theorem not_mem_key {c : Char} (fixed : c.toLower = c)
    (absent : c ∉ lower "content-id".toList) : c ∉ part.key :=
  not_mem_of_sameLetters part.keyLetters fixed absent

/-- This line names the call. -/
def idLine : Line where
  text := part.key ++ ':' :: (part.gap ++ part.answerId)
  nonempty := by simp
  onOneLine := by
    have key : OnOneLine part.key := by
      intro c inside
      constructor
      · rintro rfl
        exact part.not_mem_key rfl (by decide) inside
      · rintro rfl
        exact part.not_mem_key rfl (by decide) inside
    have gap : OnOneLine part.gap := by
      intro c inside
      rcases part.gapBlank c inside with rfl | rfl <;> decide
    have start : OnOneLine ('<' :: "response-".toList) := by decide
    exact key.append (.cons (by decide)
      (gap.append ((start.append part.idOnOneLine).append (by decide))))

theorem statusOnOneLine : OnOneLine (Nat.repr part.status).toList := by
  intro c inside
  constructor
  · rintro rfl
    exact absurd (isDigit_of_mem_repr inside) (by decide)
  · rintro rfl
    exact absurd (isDigit_of_mem_repr inside) (by decide)

/-- This line starts the answer to the call. -/
def statusLine : Line where
  text := "HTTP/1.1".toList ++ ' ' :: ((Nat.repr part.status).toList ++ ' ' :: part.reason)
  nonempty := by simp
  onOneLine :=
    .append (by decide) (.cons (by decide)
      (part.statusOnOneLine.append (.cons (by decide) part.reasonOnOneLine)))

def outer : List Line := part.before ++ part.idLine :: part.after

def inner : List Line := part.statusLine :: part.headers

/-- The answer itself is a whole message. -/
def writeAnswer : List Char :=
  writeLines part.inner ++ (lineEnd ++ (part.body ++ lineEnd))

def write : List Char :=
  lineEnd ++ (writeLines part.outer ++ (lineEnd ++ part.writeAnswer))

theorem exists_write_eq : ∃ front, part.write = front ++ ['\n'] :=
  ⟨lineEnd ++ (writeLines part.outer ++ (lineEnd ++ (writeLines part.inner ++
    (lineEnd ++ (part.body ++ ['\r']))))), by simp [write, writeAnswer, lineEnd]⟩

/-- This is what is to be read from the part. -/
def response : Response :=
  ⟨String.ofList part.id, part.status, String.ofList (trim part.body)⟩

theorem outer_ne_nil : part.outer ≠ [] := by simp [outer]

theorem inner_ne_nil : part.inner ≠ [] := List.cons_ne_nil _ _

theorem trim_idValue : trim (part.gap ++ part.answerId) = part.answerId :=
  trim_bracketed part.gapBlank _

theorem valueOf?_idLine :
    valueOf? "content-id".toList part.idLine.text = some part.answerId := by
  have solid : Solid part.key := solid_of_sameLetters part.keyLetters (by decide)
  have letters : sameLetters (trim part.key) "content-id".toList = true := by
    rw [trim_eq_self solid, part.keyLetters]
  have value := valueOf?_append (part.not_mem_key rfl (by decide)) letters
    (part.gap ++ part.answerId)
  rwa [trim_idValue] at value

/-- The first line that names a call is the one that was written. -/
theorem header?_outer : header? "content-id".toList (headOf part.outer) = some part.answerId := by
  have missing : ∀ text ∈ part.before.map Line.text,
      valueOf? "content-id".toList text = none := by
    intro text written
    obtain ⟨line, inside, rfl⟩ := List.mem_map.1 written
    exact valueOf?_eq_none (part.others line (List.mem_append_left _ inside)).1
  rw [header?_eq_findSome?, lines_headOf part.outer_ne_nil, outer, List.map_append,
    List.findSome?_append, List.findSome?_eq_none_iff.2 missing, Option.none_or, List.map_cons,
    List.findSome?_cons, valueOf?_idLine]

theorem words_statusLine : words part.statusLine.text =
    "HTTP/1.1".toList :: (Nat.repr part.status).toList :: words part.reason := by
  have version : Solid "HTTP/1.1".toList := by decide
  have written : part.statusLine.text =
      "HTTP/1.1".toList ++ ' ' :: ((Nat.repr part.status).toList ++ ' ' :: part.reason) := rfl
  have nonempty : "HTTP/1.1".toList ≠ [] := by decide
  rw [written, words_append nonempty version,
    words_append (toList_repr_ne_nil part.status) (solid_repr part.status)]

theorem statusOf?_inner : statusOf? (headOf part.inner) = some part.status := by
  have first : (lines (headOf part.inner)).head? = some part.statusLine.text := by
    rw [lines_headOf part.inner_ne_nil, inner, List.map_cons, List.head?_cons]
  have second : (words part.statusLine.text)[1]? = some (Nat.repr part.status).toList := by
    rw [words_statusLine, List.getElem?_cons_succ, List.getElem?_cons_zero]
  simp only [statusOf?, first, second, decimal_repr part.statusBound, Option.bind_eq_bind,
    Option.bind_some]
  rfl

theorem callId_answerId : callId part.answerId = part.id := by
  have bare : trimBy (fun c => c == '<' || c == '>') part.answerId =
      "response-".toList ++ part.id := by
    have opened : ['<'].all (fun c => c == '<' || c == '>') = true := by decide
    have closed : ['>'].all (fun c => c == '<' || c == '>') = true := by decide
    have split : part.answerId = ['<'] ++ (("response-".toList ++ part.id) ++ ['>']) := by
      simp [answerId]
    rw [split, trimBy_of_all_append opened, trimBy_append_of_all closed]
    apply trimBy_eq_self
    · intro c first
      obtain rfl : 'r' = c := Option.some.inj first
      decide
    · intro c last
      -- The identifier may be empty, and then the fixed start ends in a dash.
      rw [List.getLast?_append] at last
      cases final : part.id.getLast? with
      | none =>
        rw [final] at last
        obtain rfl : '-' = c := Option.some.inj last
        decide
      | some d =>
        rw [final] at last
        obtain rfl : d = c := Option.some.inj last
        obtain ⟨left, right⟩ := part.idEnd
        rw [final] at left right
        simpa using ⟨mt (congrArg some) left, mt (congrArg some) right⟩
  rw [callId, bare, dropStart?_append, Option.getD_some]

theorem not_dashes_start_of_mem_outer {line : Line} (inside : line ∈ part.outer) :
    ¬ "--".toList <+: line.text := by
  rcases List.mem_append.1 inside with before | here
  · exact (part.others line (List.mem_append_left _ before)).2
  · rcases List.mem_cons.1 here with rfl | after
    · intro dashes
      have first : ['-'] <+: part.idLine.text := (List.prefix_append ['-'] ['-']).trans dashes
      obtain ⟨rest, same⟩ : ['-'] <+: part.key := prefix_of_prefix_append_cons (by decide) first
      have letters := part.keyLetters
      rw [← same] at letters
      simp [sameLetters, lower] at letters
    · exact (part.others line (List.mem_append_right _ after)).2

/-- The start of a part cannot be taken for the end of the message. -/
theorem not_dashes_start (rest : List Char) :
    ¬ "--".toList <+: writeLines part.outer ++ rest := by
  intro dashes
  obtain ⟨line, others, same⟩ := List.exists_cons_of_ne_nil part.outer_ne_nil
  rw [same, writeLines_cons, List.append_assoc] at dashes
  exact part.not_dashes_start_of_mem_outer (same ▸ List.mem_cons_self)
    (prefix_of_prefix_append_cons (by decide) dashes)

theorem trim_body : trim (part.body ++ lineEnd) = trim part.body :=
  trimBy_append_of_all (by decide)

/-- A part is read as it was written, whatever its body holds. -/
theorem readPart?_write : readPart? part.write = some part.response := by
  have ends : lineEnd.all (fun c => c == '\r' || c == '\n') = true := by decide
  have start : trimStartBy (fun c => c == '\r' || c == '\n') part.write =
      writeLines part.outer ++ (lineEnd ++ part.writeAnswer) := by
    rw [write, trimStartBy_of_all_append ends]
    refine trimStartBy_eq_self fun c first => ?_
    simpa using head?_writeLines part.outer_ne_nil first
  have nonempty : writeLines part.outer ++ (lineEnd ++ part.writeAnswer) ≠ [] := by
    simp [lineEnd]
  have unclosed := dropStart?_eq_none (part.not_dashes_start (lineEnd ++ part.writeAnswer))
  have answer : cutHead? part.writeAnswer = some (headOf part.inner, part.body ++ lineEnd) :=
    cutHead?_writeLines part.inner_ne_nil _
  simp only [readPart?, start, nonempty, unclosed, cutHead?_writeLines part.outer_ne_nil,
    header?_outer, answer, statusOf?_inner, callId_answerId, trim_body, Option.isSome_none,
    Bool.false_eq_true, or_self, if_false, Option.getD_some, Option.bind_eq_bind,
    Option.bind_some]
  rfl

end Part

end Scaledown.Batch
