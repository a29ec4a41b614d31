/-
This file reads the body of a delete batch line by line and finds the calls it was written for.
-/

import Scaledown.Batch.Request
import Scaledown.Proofs.Batch.Part
import Scaledown.Proofs.Json.Members

namespace Scaledown.Batch

open Text

/-- This line stands before each part. -/
def boundaryLine : List Char := "--".toList ++ outgoingBoundary.toList

/-- This line stands behind the last part. -/
def closingLine : List Char := boundaryLine ++ "--".toList

/-- A message is cut at the lines of its boundary up to the closing line. The lines that come
before the first cut and those of each part are told apart, and a message that is never closed has
no parts. -/
def cutParts? : List (List Char) → Option (List (List Char) × List (List (List Char)))
  | [] => none
  | line :: rest =>
    if line = closingLine then some ([], [])
    else
      (cutParts? rest).map fun cut =>
        if line = boundaryLine then ([], cut.1 :: cut.2) else (line :: cut.1, cut.2)

/-- This function reads what stands between a fixed start and a fixed end. -/
def between? (start final text : List Char) : Option (List Char) :=
  (dropStart? start text).bind (dropEnd? final)

/-- One of the header lines of a part names the call. The request line comes after the first empty
line. -/
def readCall? (part : List (List Char)) : Option Call := do
  let headers := part.takeWhile (· ≠ [])
  let value ← headers.findSome? (valueOf? "content-id".toList)
  let id ← between? ['<'] ['>'] value
  let request ← part[headers.length + 1]?
  let path ← between? "DELETE ".toList " HTTP/1.1".toList request
  return ⟨String.ofList id, String.ofList path⟩

def readCalls? (body : String) : Option (List Call) := do
  let (_, parts) ← cutParts? (lines body.toList)
  parts.mapM readCall?

theorem between?_append (start text final : List Char) :
    between? start final (start ++ (text ++ final)) = some text := by
  rw [between?, dropStart?_append, Option.bind_some, dropEnd?_append]

/-- Lines without the boundary belong to what comes before the next cut. -/
theorem cutParts?_append {part : List (List Char)}
    (plain : ∀ line ∈ part, line ≠ boundaryLine ∧ line ≠ closingLine)
    (rest : List (List Char)) :
    cutParts? (part ++ rest) = (cutParts? rest).map fun cut => (part ++ cut.1, cut.2) := by
  induction part with
  | nil => simp
  | cons line part ih =>
    obtain ⟨⟨inner, unclosed⟩, others⟩ := List.forall_mem_cons.1 plain
    rw [List.cons_append, cutParts?, if_neg unclosed, ih others]
    simp [inner, Function.comp_def]

theorem lines_flatMap {written : List (List Char)} (within : ∀ line ∈ written, OnOneLine line) :
    lines (written.flatMap (· ++ lineEnd)) = written := by
  induction written with
  | nil => rfl
  | cons line written ih =>
    obtain ⟨here, others⟩ := List.forall_mem_cons.1 within
    have first := lines_append here.noFeed (written.flatMap (· ++ lineEnd))
    rw [ih others] at first
    simpa [lineEnd] using first

namespace Call

/-- No end of a line stands in the identifier or in the path. -/
def Unbroken (call : Call) : Prop :=
  OnOneLine call.id.toList ∧ OnOneLine call.path.toList

instance (call : Call) : Decidable call.Unbroken :=
  inferInstanceAs (Decidable (_ ∧ _))

variable (call : Call)

def kindLine : List Char := "Content-Type: application/http".toList

def idLine : List Char := "Content-ID".toList ++ ':' :: ' ' :: '<' :: (call.id.toList ++ ['>'])

def requestLine : List Char := "DELETE ".toList ++ (call.path.toList ++ " HTTP/1.1".toList)

/-- These lines of a part come after its boundary. -/
def partLines : List (List Char) :=
  [kindLine, call.idLine, [], call.requestLine, []]

theorem toList_render :
    call.render.toList = (boundaryLine :: call.partLines).flatMap (· ++ lineEnd) := by
  have kind : "Content-Type: application/http\r\n".toList = kindLine ++ lineEnd := by decide
  have opened : "Content-ID: <".toList = "Content-ID".toList ++ ':' :: ' ' :: ['<'] := by decide
  have closed : ">\r\n".toList = '>' :: lineEnd := by decide
  have version : " HTTP/1.1\r\n".toList = " HTTP/1.1".toList ++ lineEnd := by decide
  have ended : "\r\n".toList = lineEnd := by decide
  unfold render partLines idLine requestLine boundaryLine
  simp only [String.toList_append, kind, opened, closed, version, ended, List.flatMap_cons,
    List.flatMap_nil, List.append_assoc, List.cons_append, List.nil_append, List.append_nil]

theorem partLines_onOneLine {call : Call} (unbroken : call.Unbroken) :
    ∀ line ∈ call.partLines, OnOneLine line := by
  have id : OnOneLine call.idLine :=
    .append (by decide) (.cons (by decide) (.cons (by decide) (.cons (by decide)
      (unbroken.1.append (by decide)))))
  have request : OnOneLine call.requestLine :=
    .append (by decide) (unbroken.2.append (by decide))
  simp only [partLines, List.forall_mem_cons]
  exact ⟨by decide, id, by decide, request, by decide, by simp⟩

/-- No line of a part can be taken for a boundary, whatever its identifier and path are. -/
theorem partLines_ne_boundary : ∀ line ∈ call.partLines,
    line ≠ boundaryLine ∧ line ≠ closingLine := by
  have starts : ∀ line ∈ call.partLines, line.head? ≠ some '-' := by
    simp only [partLines, List.forall_mem_cons]
    have id : call.idLine.head? = some 'C' := rfl
    have request : call.requestLine.head? = some 'D' := rfl
    exact ⟨by decide, by simp [id], by decide, by simp [request], by decide, by simp⟩
  intro line inside
  constructor
  · rintro rfl
    exact starts _ inside rfl
  · rintro rfl
    exact starts _ inside rfl

theorem valueOf?_kindLine : valueOf? "content-id".toList kindLine = none := by
  decide

theorem valueOf?_idLine : valueOf? "content-id".toList call.idLine =
    some ('<' :: call.id.toList ++ ['>']) := by
  have absent : ':' ∉ "Content-ID".toList := by decide
  have letters : sameLetters (trim "Content-ID".toList) "content-id".toList = true := by decide
  have blank : IsGap [' '] := by decide
  exact (valueOf?_append absent letters _).trans
    (congrArg some (trim_bracketed blank call.id.toList))

theorem readCall?_partLines : readCall? call.partLines = some call := by
  have headers : call.partLines.takeWhile (· ≠ []) = [kindLine, call.idLine] := by
    have kind : kindLine ≠ [] := by decide
    have id : call.idLine ≠ [] := List.cons_ne_nil _ _
    simp [partLines, kind, id]
  have named : [kindLine, call.idLine].findSome? (valueOf? "content-id".toList) =
      some ('<' :: call.id.toList ++ ['>']) := by
    rw [List.findSome?_cons, valueOf?_kindLine, List.findSome?_cons, valueOf?_idLine]
  have id : between? ['<'] ['>'] ('<' :: call.id.toList ++ ['>']) = some call.id.toList :=
    between?_append ['<'] call.id.toList ['>']
  have path : between? "DELETE ".toList " HTTP/1.1".toList call.requestLine =
      some call.path.toList :=
    between?_append _ _ _
  have request : call.partLines[3]? = some call.requestLine := rfl
  simp only [readCall?, headers, named, id, List.length_cons, List.length_nil, request, path,
    Option.bind_eq_bind, Option.bind_some, String.ofList_toList]
  rfl

end Call

/-- These lines stand in the body of a batch. -/
def bodyLines (calls : List Call) : List (List Char) :=
  calls.flatMap (fun call => boundaryLine :: call.partLines) ++ [closingLine]

theorem toList_renderCalls (calls : List Call) :
    (renderCalls calls).toList = (bodyLines calls).flatMap (· ++ lineEnd) := by
  have closed : "--".toList ++ outgoingBoundary.toList ++ "--\r\n".toList =
      [closingLine].flatMap (· ++ lineEnd) := by
    decide
  rw [renderCalls, String.toList_append, String.toList_append, String.toList_append,
    String.toList_join, List.flatMap_map, bodyLines, List.flatMap_append, List.flatMap_assoc,
    ← closed, List.append_assoc, List.append_assoc]
  simp only [Call.toList_render, List.append_assoc]

theorem bodyLines_onOneLine {calls : List Call} (unbroken : ∀ call ∈ calls, call.Unbroken) :
    ∀ line ∈ bodyLines calls, OnOneLine line := by
  have boundary : OnOneLine boundaryLine := by decide
  have closing : OnOneLine closingLine := by decide
  intro line inside
  rcases List.mem_append.1 inside with part | closed
  · obtain ⟨call, given, within⟩ := List.mem_flatMap.1 part
    rcases List.mem_cons.1 within with rfl | within
    · exact boundary
    · exact Call.partLines_onOneLine (unbroken call given) line within
  · obtain rfl := List.mem_singleton.1 closed
    exact closing

/-- The lines are cut into the parts that they were written for. -/
theorem cutParts?_bodyLines (calls : List Call) :
    cutParts? (bodyLines calls) = some ([], calls.map Call.partLines) := by
  induction calls with
  | nil => rfl
  | cons call calls ih =>
    have apart : boundaryLine ≠ closingLine := by decide
    have cut := cutParts?_append call.partLines_ne_boundary (bodyLines calls)
    rw [ih, Option.map_some, List.append_nil] at cut
    have more : bodyLines (call :: calls) =
        boundaryLine :: (call.partLines ++ bodyLines calls) := by
      simp [bodyLines]
    rw [more, cutParts?, if_neg apart, cut]
    simp

theorem readCalls?_renderCalls {calls : List Call} (unbroken : ∀ call ∈ calls, call.Unbroken) :
    readCalls? (renderCalls calls) = some calls := by
  have parts : (calls.map Call.partLines).mapM readCall? = some calls :=
    Json.mapM_eq_some (List.forall₂_map_right_iff.2
      (List.forall₂_same.2 fun call _ => call.readCall?_partLines))
  rw [readCalls?, toList_renderCalls, lines_flatMap (bodyLines_onOneLine unbroken),
    cutParts?_bodyLines]
  exact parts

/-- The body of a batch is read as it was written, so no other calls have the same body. Neither
an identifier nor a path can be taken for something else, whatever stands in its line. -/
theorem written_calls_are_read_back {calls : List Call}
    (unbroken : ∀ call ∈ calls, call.Unbroken) :
    readCalls? (renderCalls calls) = some calls ∧
      ∀ others : List Call, (∀ call ∈ others, call.Unbroken) →
        renderCalls others = renderCalls calls → others = calls := by
  refine ⟨readCalls?_renderCalls unbroken, fun others plain same => ?_⟩
  have found := readCalls?_renderCalls plain
  rw [same, readCalls?_renderCalls unbroken] at found
  exact (Option.some.inj found).symm

/-- These identifiers and paths look like other lines of a batch. -/
def forgedCalls : List Call :=
  [⟨"--reaper_delete_batch--", "/zones/z/instances/a HTTP/1.1"⟩,
    ⟨"a>: <b", "--reaper_delete_batch"⟩,
    ⟨"", ""⟩,
    ⟨"Content-ID: <node-1>", "DELETE /zones/z/instances/b HTTP/1.1"⟩]

theorem written_calls_are_read_back_forgedCalls :
    (∀ call ∈ forgedCalls, call.Unbroken) ∧
      readCalls? (renderCalls forgedCalls) = some forgedCalls ∧
      ∀ others : List Call, (∀ call ∈ others, call.Unbroken) →
        renderCalls others = renderCalls forgedCalls → others = forgedCalls := by
  have unbroken : ∀ call ∈ forgedCalls, call.Unbroken := by decide
  exact ⟨unbroken, written_calls_are_read_back unbroken⟩

end Scaledown.Batch
