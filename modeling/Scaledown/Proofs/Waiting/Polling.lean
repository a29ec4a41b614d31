/-
This file shows how often and when an operation is polled, and what its wait ends with.
-/

import Scaledown.Proofs.Session.Pace
import Scaledown.Proofs.Waiting.Locality
import Scaledown.Simulation.Script

namespace Scaledown.Waiting

open Compute

/-- Only the last of these answers ends a wait. -/
inductive Conclusive : List (Except Compute.Error Operation) → Prop where
  | last {answer : Except Compute.Error Operation} (ends : pollEnds answer = true) :
      Conclusive [answer]
  | more {latest : Operation} {rest : List (Except Compute.Error Operation)}
      (unfinished : latest.isDone = false) (later : Conclusive rest) :
      Conclusive (.ok latest :: rest)

theorem Conclusive.ne_nil {answers : List (Except Compute.Error Operation)}
    (conclusive : Conclusive answers) : answers ≠ [] := by
  cases conclusive <;> exact List.cons_ne_nil _ _

theorem Conclusive.of_cons {operation : Operation} {answer : Except Compute.Error Operation}
    {rest : List (Except Compute.Error Operation)}
    (conclusive : Conclusive (.ok operation :: answer :: rest)) :
    operation.isDone = false ∧ Conclusive (answer :: rest) := by
  cases conclusive with
  | more unfinished later => exact ⟨unfinished, later⟩

theorem Conclusive.eq_nil_of_error {error : Compute.Error}
    {rest : List (Except Compute.Error Operation)}
    (conclusive : Conclusive (.error error :: rest)) : rest = [] := by
  cases conclusive
  rfl

/-- The given operation is sent first, and then each operation that came back. -/
def pollsWith (operation : Operation) : List (Except Compute.Error Operation) → List Poll
  | [] => []
  | answer :: rest =>
    ⟨operation, answer⟩ :: pollsWith (answer.toOption.getD operation) rest

/-- Whenever the operations are sent in this way, these answers come one after another. -/
def GivesInTurn {World : Type} (collaborators : Collaborators World) :
    World → Operation → List (Except Compute.Error Operation) → Prop
  | _, _, [] => True
  | world, operation, answer :: rest => ∀ time, ∃ after,
    collaborators.provider.waitOperation time operation world = some (answer, after) ∧
      GivesInTurn collaborators after (answer.toOption.getD operation) rest

/-- The last answer decides what a wait ends with. Only an operation that is done is looked at for
error items, and all of them are told in order. -/
inductive EndsWith : Except Compute.Error Operation → Except Suspend.Error Operation → Prop where
  | succeeded {final : Operation} (isDone : final.isDone = true)
      (clean : final.faults.getD [] = []) : EndsWith (.ok final) (.ok final)
  | faulty {final : Operation} {faults : List OperationFault} (isDone : final.isDone = true)
      (carried : final.faults = some faults) (nonempty : faults ≠ []) :
      EndsWith (.ok final) (.error (.operationFailed final.name (reasonsOf faults)))
  | refused (error : Compute.Error) : EndsWith (.error error) (.error (.compute error))

theorem endsWith_settled {final : Operation} (isDone : final.isDone = true) :
    EndsWith (.ok final) (settled final) := by
  rw [settled_eq]
  cases carried : final.faults with
  | none => exact .succeeded isDone (by rw [carried]; rfl)
  | some faults =>
    cases faults with
    | nil => exact .succeeded isDone (by rw [carried]; rfl)
    | cons fault faults => exact .faulty isDone carried (List.cons_ne_nil _ _)

variable {World : Type}

/-- The polls of a wait are an interval apart, or thirty years of 365 days apart if the interval is
longer. The last one comes at the end of the wait, and the last answer decides its result. Without a
poll it is the given operation that decides. -/
structure WaitsThrough (interval : Duration) (operation : Operation)
    (answers : List (Except Compute.Error Operation)) (first last : Session World)
    (result : Except Suspend.Error Operation) : Prop where
  paced : Paced (min interval.millis 946080000000) first last
    ((pollsWith operation answers).map Poll.event)
  ended : EndsWith (answers.getLastD (.ok operation)) result

/-- The session goes on at once after a poll that is done, and otherwise after the interval. -/
def polledAt (interval : Duration) (operation latest : Operation) (session : Session World)
    (world : World) : Session World :=
  let polled := session.record (.waitOperation operation (.ok latest)) world
  if latest.isDone then polled
  else polled.later (min interval.millis 946080000000)

namespace WaitsThrough

variable {interval : Duration} {operation latest : Operation} {session last : Session World}
  {world : World} {answers : List (Except Compute.Error Operation)}
  {result : Except Suspend.Error Operation}

theorem nothing (isDone : operation.isDone = true) :
    WaitsThrough interval operation [] session session (settled operation) :=
  ⟨.nil _ session, endsWith_settled isDone⟩

theorem refused (error : Compute.Error) :
    WaitsThrough interval operation [.error error] session
      (session.record (.waitOperation operation (.error error)) world)
      (.error (.compute error)) :=
  ⟨.call session _ world, .refused error⟩

/-- The interval after an unfinished poll lies between two polls. -/
theorem polled (conclusive : Conclusive (.ok latest :: answers))
    (rest : WaitsThrough interval latest answers
      (polledAt interval operation latest session world) last result) :
    WaitsThrough interval operation (.ok latest :: answers) session last result := by
  have called : Paced (min interval.millis 946080000000) session
      (session.record (.waitOperation operation (.ok latest)) world)
      [.waitOperation operation (.ok latest)] := .call session _ world
  refine ⟨?_, List.getLastD_cons.symm ▸ rest.ended⟩
  have paced := rest.paced
  cases conclusive with
  | last ends =>
    have isDone : latest.isDone = true := ends
    rw [polledAt, if_pos isDone] at paced
    exact called.append_nil paced
  | @more _ answers unfinished later =>
    rw [polledAt, if_neg (by simp [unfinished])] at paced
    obtain ⟨answer, others, rfl⟩ := List.exists_cons_of_ne_nil later.ne_nil
    exact called.trans paced (List.cons_ne_nil _ _) (List.cons_ne_nil _ _)

end WaitsThrough

variable {collaborators : Collaborators World} {session last : Session World}
  {interval : Duration} {operation : Operation}

/-- A failed poll ends the wait. -/
theorem wait_of_refused {error : Compute.Error} {after : World}
    (unfinished : operation.isDone = false)
    (replied : collaborators.provider.waitOperation session.time operation session.world =
      some (.error error, after)) (patience : Nat) :
    wait collaborators interval (patience + 1) operation session =
      some (.error (.compute error),
        session.record (.waitOperation operation (.error error)) after) := by
  have called : collaborators.waitOperation operation session = _ := Step.call_eq_some replied
  rw [wait, if_neg (by simp [unfinished])]
  change (collaborators.waitOperation operation session).bind _ = _
  rw [called]
  rfl

/-- The wait goes on with the operation that came back. -/
theorem wait_of_polled {latest : Operation} {after : World}
    (unfinished : operation.isDone = false)
    (replied : collaborators.provider.waitOperation session.time operation session.world =
      some (.ok latest, after)) (patience : Nat) :
    wait collaborators interval (patience + 1) operation session =
      wait collaborators interval patience latest
        (polledAt interval operation latest session after) := by
  have called : collaborators.waitOperation operation session = _ := Step.call_eq_some replied
  rw [wait, if_neg (by simp [unfinished]), polledAt]
  change (collaborators.waitOperation operation session).bind _ = _
  rw [called]
  cases isDone : latest.isDone with
  | true =>
    simp only [Option.bind_some, isDone, if_true]
    rfl
  | false =>
    simp only [Option.bind_some, isDone, Bool.false_eq_true, if_false]
    rfl

/-- A wait ends as soon as the answers do. -/
theorem wait_of_givesInTurn {answers : List (Except Compute.Error Operation)}
    (conclusive : Conclusive (.ok operation :: answers))
    (given : GivesInTurn collaborators session.world operation answers) :
    ∃ result last, (∀ patience, answers.length ≤ patience →
        wait collaborators interval patience operation session = some (result, last)) ∧
      WaitsThrough interval operation answers session last result := by
  induction answers generalizing operation session with
  | nil =>
    have isDone : operation.isDone = true := by
      cases conclusive with
      | last ends => exact ends
      | more _ later => exact absurd rfl later.ne_nil
    refine ⟨settled operation, session, fun patience _ => ?_, .nothing isDone⟩
    rw [wait_of_isDone isDone]
    rfl
  | cons answer rest ih =>
    obtain ⟨unfinished, later⟩ := conclusive.of_cons
    obtain ⟨after, replied, next⟩ := given session.time
    cases answer with
    | error error =>
      obtain rfl := later.eq_nil_of_error
      refine ⟨.error (.compute error),
        session.record (.waitOperation operation (.error error)) after,
        fun patience enough => ?_, .refused error⟩
      obtain ⟨less, rfl⟩ := Nat.exists_eq_add_of_le' enough
      exact wait_of_refused unfinished replied less
    | ok latest =>
      have world : (polledAt interval operation latest session after).world = after := by
        unfold polledAt
        split <;> rfl
      obtain ⟨result, last, ended, through⟩ := ih later (world.symm ▸ next)
      refine ⟨result, last, fun patience enough => ?_, through.polled later⟩
      obtain ⟨less, rfl⟩ := Nat.exists_eq_add_of_le' enough
      rw [List.length_cons, ← Nat.add_assoc, wait_of_polled unfinished replied]
      exact ended _ (Nat.le_add_left _ _)

theorem waitsThrough_of_isDone {patience : Nat} {result : Except Suspend.Error Operation}
    (isDone : operation.isDone = true)
    (done : wait collaborators interval patience operation session = some (result, last)) :
    WaitsThrough interval operation [] session last result := by
  rw [wait_of_isDone isDone] at done
  obtain ⟨rfl, rfl⟩ := Step.pure_eq_some.1 done
  exact .nothing isDone

/-- A wait that ends has come to the first answer that ends it. -/
theorem waitsThrough_of_wait {patience : Nat} {result : Except Suspend.Error Operation}
    (done : wait collaborators interval patience operation session = some (result, last)) :
    ∃ answers, Conclusive (.ok operation :: answers) ∧
      WaitsThrough interval operation answers session last result := by
  induction patience generalizing operation session with
  | zero =>
    cases isDone : operation.isDone with
    | true => exact ⟨[], .last isDone, waitsThrough_of_isDone isDone done⟩
    | false =>
      rw [wait, if_neg (by simp [isDone])] at done
      cases done
  | succ patience ih =>
    cases isDone : operation.isDone with
    | true => exact ⟨[], .last isDone, waitsThrough_of_isDone isDone done⟩
    | false =>
      obtain ⟨answer, after, replied⟩ : ∃ answer after,
          collaborators.provider.waitOperation session.time operation session.world =
            some (answer, after) := by
        rw [wait, if_neg (by simp [isDone]), Step.bind_eq_some] at done
        obtain ⟨answer, middle, asked, -⟩ := done
        obtain ⟨after, replied, -⟩ := Step.call_eq_some_iff.1 asked
        exact ⟨answer, after, replied⟩
      cases answer with
      | error error =>
        rw [wait_of_refused isDone replied] at done
        obtain ⟨rfl, rfl⟩ := Prod.mk.inj (Option.some.inj done)
        exact ⟨[.error error], .more isDone (.last rfl), .refused error⟩
      | ok latest =>
        rw [wait_of_polled isDone replied] at done
        obtain ⟨answers, conclusive, through⟩ := ih done
        exact ⟨.ok latest :: answers, .more isDone conclusive, through.polled conclusive⟩

/-- A wait polls until an operation is done or a poll fails, and it makes no call for an operation
that is done already. It sends each operation that came back, and the polls are an interval apart,
the first one at once and the last one at its end. No interval lasts longer than thirty years of
365 days. -/
theorem wait_polls_until_concluded (collaborators : Collaborators World) (interval : Duration)
    (operation : Operation) (session : Session World) :
    (∀ answers, Conclusive (.ok operation :: answers) →
      GivesInTurn collaborators session.world operation answers →
        ∃ result last, (∀ patience, answers.length ≤ patience →
            wait collaborators interval patience operation session = some (result, last)) ∧
          WaitsThrough interval operation answers session last result) ∧
    (∀ patience result last,
      wait collaborators interval patience operation session = some (result, last) →
        ∃ answers, Conclusive (.ok operation :: answers) ∧
          WaitsThrough interval operation answers session last result) :=
  ⟨fun _ conclusive given => wait_of_givesInTurn conclusive given,
    fun _ _ _ done => waitsThrough_of_wait done⟩

def removal : Operation :=
  { Operation.pending "delete-0" with zone := some "zones/zone-a" }

/-- The removal goes on under another name in another zone. -/
def movedRemoval : Operation :=
  { Operation.pending "delete-1" with zone := some "zones/zone-b", status := .running }

def quotaFault : OperationFault := ⟨some "QUOTA", some "limit reached"⟩

def backendFault : OperationFault := ⟨none, some "backend error"⟩

/-- The removal carries an error item while it is running, and two when it is done. -/
def removalAnswers : List (Except Compute.Error Operation) :=
  [.ok { removal with status := .running, faults := some [backendFault] }, .ok movedRemoval,
    .ok { movedRemoval with status := .done, faults := some [quotaFault, backendFault] }]

def removing : Simulation.World where
  provider := ⟨[], [],
    [("delete-0", [.updated .running (some [backendFault]), .replaced movedRemoval]),
      ("delete-1", [.updated .done (some [quotaFault, backendFault])])], [], []⟩
  scheduler := ⟨none, none, []⟩
  accelerator := []

theorem wait_polls_until_concluded_removing :
    Conclusive (.ok removal :: removalAnswers) ∧
      GivesInTurn Simulation.collaborators removing removal removalAnswers ∧
      ∃ result last, wait Simulation.collaborators ⟨2000⟩ 3 removal (.start removing) =
          some (result, last) ∧
        WaitsThrough ⟨2000⟩ removal removalAnswers (.start removing) last result ∧
        result = .error (.operationFailed "delete-1" "QUOTA: limit reached; backend error") ∧
        ∃ answers, Conclusive (.ok removal :: answers) ∧
          WaitsThrough ⟨2000⟩ removal answers (.start removing) last result := by
  have conclusive : Conclusive (.ok removal :: removalAnswers) :=
    .more rfl (.more rfl (.more rfl (.last rfl)))
  have given : GivesInTurn Simulation.collaborators removing removal removalAnswers :=
    fun _ => ⟨_, rfl, fun _ => ⟨_, rfl, fun _ => ⟨_, rfl, trivial⟩⟩⟩
  have polls := wait_polls_until_concluded Simulation.collaborators ⟨2000⟩ removal
    (.start removing)
  obtain ⟨result, last, ended, through⟩ := polls.1 removalAnswers conclusive given
  have done := ended 3 le_rfl
  have told :
      result = .error (.operationFailed "delete-1" "QUOTA: limit reached; backend error") := by
    have faulty : EndsWith (.ok { movedRemoval with
        status := .done, faults := some [quotaFault, backendFault] }) result := through.ended
    cases faulty with
    | succeeded isDone clean => cases clean
    | faulty isDone carried nonempty =>
      cases carried
      rfl
  exact ⟨conclusive, given, result, last, done, through, told, polls.2 3 result last done⟩

/-- The removal is running once. -/
def runningOnce : Simulation.World :=
  ⟨⟨[], [], [("delete-0", [.updated .running none])], [], []⟩, ⟨none, none, []⟩, []⟩

/-- An interval beyond the longest sleep is cut, so two polls are not a whole interval apart. -/
theorem wait_cuts_long_interval :
    Conclusive [.ok removal, .ok { removal with status := .running },
      .ok { removal with status := .done }] ∧
    GivesInTurn Simulation.collaborators runningOnce removal
      [.ok { removal with status := .running }, .ok { removal with status := .done }] ∧
    ∃ result last,
      wait Simulation.collaborators ⟨946080000001⟩ 2 removal (.start runningOnce) =
        some (result, last) ∧
      ¬ ∃ calls, Paced 946080000001 (.start runningOnce) last calls := by
  refine ⟨.more rfl (.more rfl (.last rfl)), fun _ => ⟨_, rfl, fun _ => ⟨_, rfl, trivial⟩⟩, ?_⟩
  have times : (wait Simulation.collaborators ⟨946080000001⟩ 2 removal
      (.start runningOnce)).map (fun reached => reached.2.history.map TimedEvent.time) =
        some [0, 946080000000] := by
    decide +kernel
  obtain ⟨⟨result, last⟩, done, made⟩ := Option.map_eq_some_iff.1 times
  refine ⟨result, last, done, ?_⟩
  rintro ⟨calls, paced⟩
  rw [paced.history, Session.start, List.nil_append] at made
  have second := congrArg (fun times => times[1]?) made
  simp at second

end Scaledown.Waiting
