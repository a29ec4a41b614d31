/-
This file follows one operation through its polls with local answers.
-/

import Scaledown.Proofs.Session.Locality
import Scaledown.Proofs.Waiting.Ending

namespace Scaledown

open Compute Waiting

namespace LocalAnswers

variable (answers : LocalAnswers)

/-- An operation that is not done is polled until an answer ends its polls. -/
def lastAnswer (operation : Operation) : Except Compute.Error Operation :=
  if operation.status = .done then .ok operation
  else answers.poll operation.name (Nat.find (answers.pollingEnds operation.name 0))

theorem lastAnswer_of_isDone {operation : Operation} (isDone : operation.isDone = true) :
    answers.lastAnswer operation = .ok operation :=
  if_pos (beq_iff_eq.1 isDone)

/-- The first poll that ends an operation gives the last answer. -/
theorem lastAnswer_eq {operation : Operation} (unfinished : operation.isDone = false) {time : Nat}
    (before : ∀ earlier < time, pollEnds (answers.poll operation.name earlier) = false)
    (ends : pollEnds (answers.poll operation.name time) = true) :
    answers.lastAnswer operation = answers.poll operation.name time := by
  have first : Nat.find (answers.pollingEnds operation.name 0) = time := by
    refine (Nat.find_eq_iff _).2 ⟨⟨Nat.zero_le _, ends⟩, fun earlier less found => ?_⟩
    rw [before earlier less] at found
    cases found.2
  rw [lastAnswer, if_neg (beq_eq_false_iff_ne.1 unfinished), first]

end LocalAnswers

namespace Waiting

variable {answers : LocalAnswers} {before : List Event}

/-- The last answer about an operation decides how its wait ends. -/
def concluded : Except Compute.Error Operation → Except Suspend.Error Operation
  | .ok final => settled final
  | .error error => .error (.compute error)

theorem timesPolled_poll (poll : Poll) (name : String) :
    timesPolled [poll.event] name = if poll.sent.name = name then 1 else 0 := by
  simp [timesPolled, Poll.event, Event.polled?, List.count_singleton]

/-- The polls of an operation keep its name. -/
theorem Polled.timesPolled_of_ne {operation : Operation} {polls : List Poll}
    {result : Except Suspend.Error Operation} (polled : Polled operation polls result)
    (given : Justified answers.Gives before (polls.map Poll.event)) {name : String}
    (other : name ≠ operation.name) : timesPolled (polls.map Poll.event) name = 0 := by
  induction polled generalizing before with
  | done => rfl
  | @failed operation error =>
    exact (timesPolled_poll ⟨operation, .error error⟩ name).trans (if_neg other.symm)
  | @polled operation latest polls _ _ _ ih =>
    obtain ⟨own, later⟩ := given.of_cons
    have same : latest.name = operation.name := answers.keepsName own.symm
    have first := timesPolled_poll ⟨operation, .ok latest⟩ name
    rw [if_neg other.symm] at first
    rw [List.map_cons, ← List.singleton_append, timesPolled_append, first,
      ih later (same.symm ▸ other)]

theorem Polled.result_of_isDone {operation : Operation} {polls : List Poll}
    {result : Except Suspend.Error Operation} (polled : Polled operation polls result)
    (isDone : operation.isDone = true) : result = settled operation := by
  cases polled with
  | done => rfl
  | failed _ unfinished | polled unfinished =>
    rw [isDone] at unfinished
    cases unfinished

/-- The first poll that ends an operation gives the result. -/
theorem Polled.result_of_unfinished {operation : Operation} {polls : List Poll}
    {result : Except Suspend.Error Operation} (polled : Polled operation polls result)
    (given : Justified answers.Gives before (polls.map Poll.event))
    (unfinished : operation.isDone = false) :
    ∃ time, timesPolled before operation.name ≤ time ∧
      (∀ earlier, timesPolled before operation.name ≤ earlier → earlier < time →
        pollEnds (answers.poll operation.name earlier) = false) ∧
      pollEnds (answers.poll operation.name time) = true ∧
      result = concluded (answers.poll operation.name time) := by
  induction polled generalizing before with
  | done isDone =>
    rw [isDone] at unfinished
    cases unfinished
  | @failed operation error =>
    obtain ⟨own, -⟩ := given.of_cons
    have answer : answers.poll operation.name (timesPolled before operation.name) =
        .error error := own.symm
    refine ⟨timesPolled before operation.name, le_rfl, fun _ _ _ => by omega, ?_, ?_⟩ <;>
      · rw [answer]
        rfl
  | @polled operation latest polls _ _ rest ih =>
    obtain ⟨own, later⟩ := given.of_cons
    have answer : answers.poll operation.name (timesPolled before operation.name) =
        .ok latest := own.symm
    cases isDone : latest.isDone with
    | true =>
      refine ⟨timesPolled before operation.name, le_rfl, fun _ _ _ => by omega, ?_, ?_⟩
      · rw [answer]
        exact isDone
      · rw [answer]
        exact rest.result_of_isDone isDone
    | false =>
      have counted : timesPolled (before ++ [Poll.event ⟨operation, .ok latest⟩])
          operation.name = timesPolled before operation.name + 1 := by
        rw [timesPolled_append, timesPolled_poll, if_pos rfl]
      obtain ⟨time, start, early, ends, result⟩ := ih later isDone
      rw [answers.keepsName answer] at start early ends result
      rw [counted] at start early
      refine ⟨time, by omega, fun earlier enough less => ?_, ends, result⟩
      rcases Nat.eq_or_lt_of_le enough with rfl | above
      · rw [answer]
        exact isDone
      · exact early earlier above less

/-- The result of a fresh operation is the one that its own polls give. -/
theorem Polled.result_eq {operation : Operation} {polls : List Poll}
    {result : Except Suspend.Error Operation} (polled : Polled operation polls result)
    (given : Justified answers.Gives before (polls.map Poll.event))
    (fresh : timesPolled before operation.name = 0) :
    result = concluded (answers.lastAnswer operation) := by
  cases isDone : operation.isDone with
  | true => rw [polled.result_of_isDone isDone, answers.lastAnswer_of_isDone isDone, concluded]
  | false =>
    obtain ⟨time, -, early, ends, rfl⟩ := polled.result_of_unfinished given isDone
    rw [fresh] at early
    rw [answers.lastAnswer_eq isDone (fun earlier less => early earlier (Nat.zero_le _) less) ends]

/-- An order to resume is no poll. -/
theorem timesPolled_resumption (resumption : Scheduler.Resumption) (name : String) :
    timesPolled resumption.events name = 0 := by
  unfold timesPolled Scheduler.Resumption.events
  cases resumption.answer? <;> rfl

/-- Operations of different names are confirmed independently of each other. -/
theorem confirmations_local {powered : Bool} {confirmations : List (Confirmation powered)}
    (given : Justified answers.Gives before (confirmations.flatMap Confirmation.events))
    (names : (confirmations.map fun confirmation => confirmation.operation.name).Nodup)
    (fresh : ∀ confirmation ∈ confirmations,
      timesPolled before confirmation.operation.name = 0) :
    ∀ confirmation ∈ confirmations,
      confirmation.result = concluded (answers.lastAnswer confirmation.operation) := by
  induction confirmations generalizing before with
  | nil => simp
  | cons confirmation confirmations ih =>
    rw [List.flatMap_cons, Confirmation.events, List.append_assoc] at given
    obtain ⟨own, others⟩ := given.of_append
    obtain ⟨-, rest⟩ := others.of_append
    obtain ⟨outside, distinct⟩ := List.nodup_cons.1 names
    refine List.forall_mem_cons.2 ⟨?_, ih rest distinct fun other inside => ?_⟩
    · exact confirmation.polled.result_eq own (fresh _ List.mem_cons_self)
    · have differs : other.operation.name ≠ confirmation.operation.name := by
        intro same
        exact outside (List.mem_map.2 ⟨other, inside, same⟩)
      rw [timesPolled_append, timesPolled_append, timesPolled_resumption,
        confirmation.polled.timesPolled_of_ne own differs,
        fresh other (List.mem_cons_of_mem _ inside)]

variable {World : Type} {collaborators : Collaborators World} {world : World}
  {session : Session World}

/-- One of so many polls that come next ends this operation. -/
def DoneSoon (collaborators : Collaborators World) (answers : LocalAnswers) (world : World)
    (needed : Nat) (operation : Operation) (session : Session World) : Prop :=
  ∃ events time, Performs collaborators (.start world) events session ∧
    timesPolled events operation.name ≤ time ∧
      time < timesPolled events operation.name + needed ∧
      pollEnds (answers.poll operation.name time) = true

theorem doneSoon_nearer (here : HostLocal collaborators answers world) :
    PollsComeNearer collaborators (DoneSoon collaborators answers world) := by
  rintro needed operation latest start rested - ⟨events, time, reached, early, before, ends⟩ polled
    unfinished
  have own := (here.justified (reached.trans polled)).of_append.2.of_cons.1
  have answer : answers.poll operation.name (timesPolled events operation.name) =
      .ok latest := own.symm
  have kept : latest.name = operation.name := answers.keepsName answer
  have counted : timesPolled (events ++ [Poll.event ⟨operation, .ok latest⟩]) latest.name =
      timesPolled events operation.name + 1 := by
    rw [kept, timesPolled_append, timesPolled_poll, if_pos rfl]
  have differs : time ≠ timesPolled events operation.name := by
    rintro rfl
    rw [answer] at ends
    exact absurd ends (Bool.eq_false_iff.1 unfinished)
  refine ⟨needed - 1, by omega, _, time, reached.trans polled, ?_⟩
  rw [counted, kept]
  exact ⟨by omega, by omega, ends⟩

theorem exists_doneSoon (answers : LocalAnswers) (operation : Operation)
    (arrived : Arrives collaborators world session) :
    ∃ needed, DoneSoon collaborators answers world needed operation session := by
  obtain ⟨events, reached⟩ := arrived
  obtain ⟨time, start, ends⟩ :=
    answers.pollingEnds operation.name (timesPolled events operation.name)
  exact ⟨time + 1, events, time, reached, start, by omega, ends⟩

end Waiting

end Scaledown
