/-
This file describes how the operations of accepted deletions end.
-/

import Scaledown.Proofs.Scheduler.NodeStates
import Scaledown.Waiting

namespace Scaledown.Waiting

open Compute Scheduler

/-- An error item is told by its code and its message, as far as it has them. -/
def reasonOf (fault : OperationFault) : String :=
  match fault.code, fault.message with
  | some code, some message => code ++ ": " ++ message
  | none, some message => message
  | some code, none => code
  | none, none => "unknown error"

theorem text_eq_reasonOf (fault : OperationFault) : fault.text = reasonOf fault := by
  obtain ⟨code, message⟩ := fault
  cases code <;> cases message <;> rfl

/-- The reasons of all error items follow each other. -/
def reasonsOf (faults : List OperationFault) : String :=
  String.intercalate "; " (faults.map reasonOf)

/-- Without error items an operation is settled well. -/
theorem settled_eq (operation : Operation) :
    settled operation = match operation.faults with
      | none | some [] => .ok operation
      | some faults => .error (.operationFailed operation.name (reasonsOf faults)) := by
  unfold settled Operation.errorMessage? reasonsOf
  match operation.faults with
  | none | some [] => rfl
  | some (fault :: faults) => rw [← funext text_eq_reasonOf]

/-- A poll is the operation that was sent with the answer to it. -/
structure Poll where
  sent : Operation
  answer : Except Compute.Error Operation

def Poll.event (poll : Poll) : Event :=
  .waitOperation poll.sent poll.answer

/-- An operation is polled with its latest answer until it is done or a poll fails. -/
inductive Polled : Operation → List Poll → Except Suspend.Error Operation → Prop where
  | done {operation : Operation} (finished : operation.isDone = true) :
      Polled operation [] (settled operation)
  | failed {operation : Operation} (error : Compute.Error)
      (unfinished : operation.isDone = false) :
      Polled operation [⟨operation, .error error⟩] (.error (.compute error))
  | polled {operation latest : Operation} {polls : List Poll}
      {result : Except Suspend.Error Operation} (unfinished : operation.isDone = false)
      (rest : Polled latest polls result) :
      Polled operation (⟨operation, .ok latest⟩ :: polls) result

/-- A successful wait ends with an operation that is done and carries no error items. -/
theorem Polled.isDone_of_ok {operation final : Operation} {polls : List Poll}
    (polled : Polled operation polls (.ok final)) :
    final.isDone = true ∧ final.errorMessage? = none ∧
      (final = operation ∨ ∃ poll ∈ polls, poll.answer = .ok final) := by
  generalize same : (Except.ok final : Except Suspend.Error Operation) = result at polled
  induction polled with
  | @done operation finished =>
    cases fault : operation.errorMessage? with
    | none =>
      obtain rfl : final = operation := by simpa [settled, fault] using same
      exact ⟨finished, fault, .inl rfl⟩
    | some message => simp [settled, fault] at same
  | failed => cases same
  | polled unfinished rest ih =>
    obtain ⟨finished, clean, rfl | ⟨poll, inside, answered⟩⟩ := ih same
    · exact ⟨finished, clean, .inr ⟨_, List.mem_cons_self, rfl⟩⟩
    · exact ⟨finished, clean, .inr ⟨poll, List.mem_cons_of_mem _ inside, answered⟩⟩

/-- A failed wait ends with a failed poll or with an operation that carries error items. -/
theorem Polled.exists_of_error {operation : Operation} {error : Suspend.Error}
    {polls : List Poll} (polled : Polled operation polls (.error error)) :
    (∃ poll ∈ polls, ∃ reason, poll.answer = .error reason ∧ error = .compute reason) ∨
      ∃ final message, (final = operation ∨ ∃ poll ∈ polls, poll.answer = .ok final) ∧
        final.isDone = true ∧ final.errorMessage? = some message ∧
          error = .operationFailed final.name message := by
  generalize same : (Except.error error : Except Suspend.Error Operation) = result at polled
  induction polled with
  | @done operation finished =>
    cases fault : operation.errorMessage? with
    | none => simp [settled, fault] at same
    | some message =>
      simp only [settled, fault, Except.error.injEq] at same
      exact .inr ⟨operation, message, .inl rfl, finished, fault, same⟩
  | failed reason =>
    exact .inl ⟨_, List.mem_cons_self, reason, rfl, Except.error.inj same⟩
  | polled unfinished rest ih =>
    rcases ih same with ⟨poll, inside, reason, answered, rfl⟩ |
      ⟨final, message, rfl | ⟨poll, inside, answered⟩, finished, fault, rfl⟩
    · exact .inl ⟨poll, List.mem_cons_of_mem _ inside, reason, answered, rfl⟩
    · exact .inr ⟨_, message, .inr ⟨_, List.mem_cons_self, rfl⟩, finished, fault, rfl⟩
    · exact .inr ⟨final, message, .inr ⟨poll, List.mem_cons_of_mem _ inside, answered⟩, finished,
        fault, rfl⟩

variable {World : Type} {collaborators : Collaborators World} {session last : Session World}

/-- A wait makes the polls that its operation needs. -/
theorem wait_performs {interval : Duration} {patience : Nat} {operation : Operation}
    {result : Except Suspend.Error Operation}
    (done : wait collaborators interval patience operation session = some (result, last)) :
    ∃ polls : List Poll, Polled operation polls result ∧
      Performs collaborators session (polls.map Poll.event) last := by
  induction patience generalizing operation session with
  | zero =>
    cases finished : operation.isDone with
    | true =>
      rw [wait, if_pos finished] at done
      obtain ⟨rfl, rfl⟩ := Step.pure_eq_some.1 done
      exact ⟨[], .done finished, .nothing _⟩
    | false =>
      rw [wait, if_neg (by simp [finished])] at done
      cases done
  | succ patience ih =>
    cases finished : operation.isDone with
    | true =>
      rw [wait, if_pos finished] at done
      obtain ⟨rfl, rfl⟩ := Step.pure_eq_some.1 done
      exact ⟨[], .done finished, .nothing _⟩
    | false =>
      rw [wait, if_neg (by simp [finished]), Step.bind_eq_some] at done
      obtain ⟨answer, middle, asked, done⟩ := done
      have called := Collaborators.waitOperation_performs asked
      cases answer with
      | error error =>
        obtain ⟨rfl, rfl⟩ := Step.pure_eq_some.1 done
        exact ⟨[⟨operation, .error error⟩], .failed error finished, called⟩
      | ok latest =>
        obtain ⟨rested, slept, done⟩ : ∃ rested,
            Performs collaborators middle [] rested ∧
              wait collaborators interval patience latest rested = some (result, last) := by
          cases unfinished : latest.isDone with
          | true => exact ⟨middle, .nothing _, by simpa [unfinished] using done⟩
          | false =>
            simp only [unfinished, Bool.not_false, if_true, Step.bind_eq_some] at done
            obtain ⟨_, rested, slept, done⟩ := done
            exact ⟨rested, Step.sleep_performs slept, done⟩
        obtain ⟨polls, polled, performed⟩ := ih done
        exact ⟨⟨operation, .ok latest⟩ :: polls, .polled finished polled,
          (called.trans slept).trans performed⟩

/-- A confirmation is an accepted deletion with its polls, its end and the return of its node. -/
structure Confirmation (powered : Bool) where
  hostname : String
  operation : Operation
  polls : List Poll
  result : Except Suspend.Error Operation
  polled : Polled operation polls result
  answer? : Option Answer
  /-- A node that is powered down is told to resume exactly when its operation succeeded. -/
  ordered : answer?.isSome ↔ result.isOk ∧ powered

namespace Confirmation

variable {powered : Bool}

def resumption (confirmation : Confirmation powered) : Resumption :=
  ⟨confirmation.hostname, confirmation.answer?⟩

def request (confirmation : Confirmation powered) : String × Operation :=
  (confirmation.hostname, confirmation.operation)

def events (confirmation : Confirmation powered) : List Event :=
  confirmation.polls.map Poll.event ++ confirmation.resumption.events

def confirmed? (confirmation : Confirmation powered) : Option String :=
  match confirmation.result with
  | .ok _ => some confirmation.hostname
  | .error _ => none

def failed? (confirmation : Confirmation powered) : Option (String × String) :=
  match confirmation.result with
  | .ok _ => none
  | .error error => some (confirmation.hostname, error.message)

end Confirmation

theorem Confirmation.mem_events {powered : Bool} {confirmation : Confirmation powered}
    {event : Event} : event ∈ confirmation.events ↔
      (∃ poll ∈ confirmation.polls, poll.event = event) ∨
        event ∈ confirmation.resumption.events := by
  simp [events]

theorem Confirmation.confirmed?_eq_some {powered : Bool} {confirmation : Confirmation powered}
    {hostname : String} : confirmation.confirmed? = some hostname ↔
      confirmation.hostname = hostname ∧ ∃ final, confirmation.result = .ok final := by
  unfold confirmed?
  cases confirmation.result <;> simp

theorem Confirmation.failed?_eq_some {powered : Bool} {confirmation : Confirmation powered}
    {entry : String × String} : confirmation.failed? = some entry ↔
      ∃ error, confirmation.result = .error error ∧
        (confirmation.hostname, error.message) = entry := by
  unfold failed?
  cases confirmation.result <;> simp

/-- Only a confirmed node comes back. -/
theorem Confirmation.confirmed?_of_resumed {powered : Bool} {confirmation : Confirmation powered}
    {hostname : String} (resumed : confirmation.resumption.resumed? = some hostname) :
    confirmation.confirmed? = some hostname := by
  obtain ⟨rfl, answered⟩ := Resumption.resumed?_eq_some.1 resumed
  have ordered := confirmation.ordered.1 (by
    rw [show confirmation.answer? = some (.ok ()) from answered]
    rfl)
  apply confirmed?_eq_some.2
  cases ended : confirmation.result with
  | ok final => exact ⟨rfl, final, rfl⟩
  | error error => simp [ended, Except.isOk, Except.toBool] at ordered

/-- The report joins the ends of all confirmations. -/
def Report.ofConfirmations {powered : Bool} (confirmations : List (Confirmation powered)) :
    Report where
  confirmed := confirmations.filterMap Confirmation.confirmed?
  readmitted := confirmations.filterMap fun confirmation => confirmation.resumption.resumed?
  failed := confirmations.filterMap Confirmation.failed?

/-- Every confirmed operation succeeds or fails. -/
theorem confirmations_divide {powered : Bool} (confirmations : List (Confirmation powered)) :
    (confirmations.filterMap Confirmation.confirmed? ++
      (confirmations.filterMap Confirmation.failed?).map Prod.fst).Perm
        (confirmations.map Confirmation.hostname) := by
  have divided := filterMap_divide_perm Confirmation.hostname
    (fun confirmation : Confirmation powered => confirmation.confirmed?)
    (fun confirmation => confirmation.failed?.map Prod.fst) (fun _ => none) confirmations (by
      intro confirmation _
      cases ended : confirmation.result <;>
        simp [Confirmation.confirmed?, Confirmation.failed?, ended])
  simpa [List.map_filterMap] using divided

/-- A node that was sent to its operation comes back when it succeeds. -/
theorem confirmOne_performs {interval : Duration} {patience : Nat} {hostname : String}
    {operation : Operation} {report next : Report} {states after : NodeStates} {powered : Bool}
    (down : states.phase hostname = .powerDown ↔ powered)
    (done : confirmOne collaborators interval patience hostname operation report states session =
      some ((next, after), last)) :
    ∃ confirmation : Confirmation powered, confirmation.request = (hostname, operation) ∧
      Performs collaborators session confirmation.events last ∧
      next = ⟨report.confirmed ++ confirmation.confirmed?.toList,
        report.readmitted ++ confirmation.resumption.resumed?.toList,
        report.failed.putAll confirmation.failed?.toList⟩ ∧
      after.history = states.history ++ confirmation.resumption.moves ∧
      ∀ other, other ≠ hostname → after.phase other = states.phase other := by
  simp only [confirmOne, Step.bind_eq_some] at done
  obtain ⟨result, middle, waited, done⟩ := done
  obtain ⟨polls, polled, performed⟩ := wait_performs waited
  cases result with
  | error error =>
    obtain ⟨rfl, rfl, rfl⟩ := Step.pure_pair_eq_some.1 done
    refine ⟨⟨hostname, operation, polls, .error error, polled, none, by simp [Except.isOk,
      Except.toBool]⟩, rfl, ?_, ?_, ?_, fun _ _ => rfl⟩
    · simpa [Confirmation.events, Confirmation.resumption, Resumption.events] using performed
    · simp [Report.addFailed, Confirmation.confirmed?, Confirmation.failed?,
        Confirmation.resumption, Resumption.resumed?, Resumption.succeeded, Table.putAll]
    · simp [Confirmation.resumption, Resumption.moves, Resumption.succeeded]
  | ok final =>
    rw [Step.bind_eq_some] at done
    obtain ⟨⟨resumed, states'⟩, reached, readmitted, done⟩ := done
    obtain ⟨⟨host, answer?⟩, rfl, ordered, rfl, ordering, recorded, phases⟩ :=
      readmit_performs readmitted
    obtain ⟨rfl, rfl, rfl⟩ := Step.pure_pair_eq_some.1 done
    refine ⟨⟨host, operation, polls, .ok final, polled, answer?, by
      simp [ordered, down, Except.isOk, Except.toBool]⟩, rfl, ?_, ?_, recorded, phases⟩
    · exact performed.trans ordering
    · cases came : Resumption.succeeded ⟨host, answer?⟩ <;>
        simp [Report.addConfirmed, Confirmation.confirmed?, Confirmation.failed?,
          Confirmation.resumption, Resumption.resumed?, Table.putAll, came]

/-- One more confirmation joins the report at the end. -/
theorem Report.ofConfirmations_concat {powered : Bool} (earlier : List (Confirmation powered))
    (confirmation : Confirmation powered)
    (distinct : ((earlier ++ [confirmation]).map Confirmation.hostname).Nodup) :
    Report.ofConfirmations (earlier ++ [confirmation]) =
      ⟨(ofConfirmations earlier).confirmed ++ confirmation.confirmed?.toList,
        (ofConfirmations earlier).readmitted ++ confirmation.resumption.resumed?.toList,
        (ofConfirmations earlier).failed.putAll confirmation.failed?.toList⟩ := by
  have divided := confirmations_divide (earlier ++ [confirmation])
  have fresh := (List.sublist_append_right _ _).nodup (divided.nodup_iff.2 distinct)
  have failed := Table.putAll_filterMap_concat Confirmation.failed? earlier confirmation fresh
  simp only [ofConfirmations, failed]
  simp [List.filterMap_eq_flatMap_toList]

/-- The operations of distinct hosts are confirmed in turn, and their nodes come back in turn. -/
theorem confirmAndReadmit_performs (powered : Bool) (earlier : List (Confirmation powered))
    {interval : Duration} {patience : Nat} {operations : List (String × Operation)}
    {report : Report} {states after : NodeStates}
    (distinct : (earlier.map Confirmation.hostname ++ operations.map Prod.fst).Nodup)
    (down : ∀ host ∈ operations.map Prod.fst, states.phase host = .powerDown ↔ powered)
    (done : confirmAndReadmit collaborators interval patience operations
      (.ofConfirmations earlier) states session = some ((report, after), last)) :
    ∃ confirmations : List (Confirmation powered),
      confirmations.map Confirmation.request = operations ∧
      Performs collaborators session (confirmations.flatMap Confirmation.events) last ∧
      report = .ofConfirmations (earlier ++ confirmations) ∧
      after.history = states.history ++
        confirmations.flatMap (fun confirmation => confirmation.resumption.moves) ∧
      ∀ other, other ∉ operations.map Prod.fst → after.phase other = states.phase other := by
  induction operations generalizing earlier states session with
  | nil =>
    obtain ⟨rfl, rfl, rfl⟩ := Step.pure_pair_eq_some.1 done
    exact ⟨[], rfl, .nothing _, by simp, by simp, fun _ _ => rfl⟩
  | cons request operations ih =>
    obtain ⟨hostname, operation⟩ := request
    simp only [ confirmAndReadmit, Step.bind_eq_some] at done
    obtain ⟨⟨next, states'⟩, middle, confirmed, done⟩ := done
    obtain ⟨confirmation, same, performed, rfl, recorded, phases⟩ :=
      confirmOne_performs (down hostname (by simp)) confirmed
    obtain ⟨rfl, rfl⟩ := Prod.mk.inj same
    have next : ((earlier ++ [confirmation]).map Confirmation.hostname ++
        operations.map Prod.fst).Nodup := by
      simpa using distinct
    have fresh : confirmation.hostname ∉ operations.map Prod.fst :=
      (List.nodup_cons.1 (List.nodup_append.1 distinct).2.1).1
    have kept : ∀ host ∈ operations.map Prod.fst, states'.phase host = .powerDown ↔ powered := by
      intro host inside
      rw [phases host fun same => fresh (same ▸ inside)]
      exact down host (List.mem_cons_of_mem _ inside)
    rw [← Report.ofConfirmations_concat earlier confirmation
      ((List.sublist_append_left _ _).nodup next)] at done
    obtain ⟨confirmations, rfl, rest, rfl, history, others⟩ := ih _ next kept done
    refine ⟨confirmation :: confirmations, rfl, performed.trans rest, by simp, ?_, ?_⟩
    · simp [history, recorded]
    · intro other outside
      simp only [List.map_cons, List.mem_cons, not_or] at outside
      rw [others other outside.2, phases other outside.1]

end Scaledown.Waiting
