/-
This file describes how the nodes of a run leave service and come back.
-/

import Scaledown.Proofs.Session.Trace
import Scaledown.Proofs.Table
import Scaledown.Scheduler.NodeStates

namespace Scaledown.Scheduler

/-- The scheduler accepts an order or refuses it. -/
abbrev Answer := Except Error Unit

namespace NodeStates

theorem mayMoveTo_schedulable_iff (phase : Phase) :
    phase.mayMoveTo .schedulable = true ↔ phase = .powerDown := by
  cases phase <;> simp [Phase.mayMoveTo]

/-- A legal move is recorded and changes the phase of its own node only. -/
theorem advance_of_mayMoveTo (states : NodeStates) (hostname : String) {source target : Phase}
    (here : states.phase hostname = source) (legal : source.mayMoveTo target) :
    (states.advance target hostname).history =
        states.history ++ [⟨hostname, source, target⟩] ∧
      ∀ other, (states.advance target hostname).phase other =
        if other = hostname then target else states.phase other := by
  subst here
  rw [advance, if_pos legal]
  refine ⟨rfl, fun other => ?_⟩
  by_cases same : other = hostname
  · rw [if_pos same, same, phase, Table.find?_put_self, Option.getD_some]
  · rw [if_neg same, phase, Table.find?_put_of_ne _ _ same, phase]

/-- Distinct nodes in one phase move together when the move is legal. -/
theorem advanceAll_of_mayMoveTo {source target : Phase} (legal : source.mayMoveTo target)
    {hostnames : List String} (distinct : hostnames.Nodup) (states : NodeStates)
    (together : ∀ host ∈ hostnames, states.phase host = source) :
    (states.advanceAll target hostnames).history =
        states.history ++ hostnames.map (⟨·, source, target⟩) ∧
      ∀ other, (states.advanceAll target hostnames).phase other =
        if other ∈ hostnames then target else states.phase other := by
  induction hostnames generalizing states with
  | nil => simp [advanceAll]
  | cons host hostnames ih =>
    obtain ⟨fresh, distinct⟩ := List.nodup_cons.1 distinct
    obtain ⟨recorded, phases⟩ :=
      advance_of_mayMoveTo states host (together host List.mem_cons_self) legal
    have others : ∀ other ∈ hostnames, (states.advance target host).phase other = source := by
      intro other inside
      have apart : other ≠ host := fun same => fresh (same ▸ inside)
      rw [phases, if_neg apart]
      exact together other (List.mem_cons_of_mem _ inside)
    obtain ⟨history, final⟩ := ih distinct (states.advance target host) others
    change (advanceAll target hostnames (states.advance target host)).history = _ ∧
      ∀ other, (advanceAll target hostnames (states.advance target host)).phase other = _
    refine ⟨by simp [history, recorded], fun other => ?_⟩
    rw [final, phases]
    by_cases same : other = host
    · simp [same]
    · simp [same]

end NodeStates

/-- The orders that take nodes offline come before everything else of a job. -/
def offlineOrders (expression : String) (down powerDown : Answer) : Trigger → List Event
  | .idle => []
  | .jobCompletion job =>
    [.updateNodes expression .down (some (Nat.repr job ++ " finishing")) down,
      .updateNodes expression .powerDown none powerDown]

/-- The nodes are down when the idle policy or an accepted order has powered them down. -/
def poweredDown (powerDown : Answer) : Trigger → Bool
  | .idle => true
  | .jobCompletion _ => powerDown.isOk

/-- Orders that take nodes offline never resume a node. -/
theorem target_of_mem_offlineOrders {expression : String} {down powerDown : Answer}
    {trigger : Trigger} {event : Event}
    (inside : event ∈ offlineOrders expression down powerDown trigger) :
    ∃ target reason answer, target ≠ .resume ∧
      event = .updateNodes expression target reason answer := by
  cases trigger with
  | idle => cases inside
  | jobCompletion job =>
    rcases List.mem_pair.1 inside with rfl | rfl
    · exact ⟨_, _, _, by decide, rfl⟩
    · exact ⟨_, _, _, by decide, rfl⟩

/-- A job powers its nodes down with an accepted order. -/
theorem mem_offlineOrders_of_poweredDown {expression : String} {down powerDown : Answer}
    {trigger : Trigger} (job : trigger.isJob = true)
    (powered : poweredDown powerDown trigger = true) :
    .updateNodes expression .powerDown none (.ok ()) ∈
      offlineOrders expression down powerDown trigger := by
  cases trigger with
  | idle => cases job
  | jobCompletion job =>
    cases powerDown with
    | error error => cases powered
    | ok => exact List.mem_cons_of_mem _ List.mem_cons_self

/-- The moves out of service are those of the accepted orders. -/
def offlineMoves (hostnames : List String) (down powerDown : Answer) : Trigger → List Transition
  | .idle => hostnames.map (⟨·, .schedulable, .powerDown⟩)
  | .jobCompletion _ =>
    (if down.isOk then hostnames.map (⟨·, .schedulable, .adminDown⟩) else []) ++
      if powerDown.isOk then
        hostnames.map (⟨·, if down.isOk then .adminDown else .schedulable, .powerDown⟩)
      else []

/-- A resumption is a node that may come back, with the answer to its order if there was one. -/
structure Resumption where
  hostname : String
  answer? : Option Answer

namespace Resumption

def events (resumption : Resumption) : List Event :=
  resumption.answer?.toList.map (.updateNodes resumption.hostname .resume none)

def succeeded (resumption : Resumption) : Bool :=
  match resumption.answer? with
  | some answer => answer.isOk
  | none => false

def resumed? (resumption : Resumption) : Option String :=
  if resumption.succeeded then some resumption.hostname else none

def moves (resumption : Resumption) : List Transition :=
  if resumption.succeeded then [⟨resumption.hostname, .powerDown, .schedulable⟩] else []

/-- Only a node that is powered down is called back. -/
def Ready (resumption : Resumption) (states : NodeStates) : Prop :=
  resumption.answer?.isSome ↔ states.phase resumption.hostname = .powerDown

/-- The node is in service again when its order was accepted. -/
def apply (resumption : Resumption) (states : NodeStates) : NodeStates :=
  if resumption.succeeded then states.advance .schedulable resumption.hostname else states

theorem Ready.powerDown {resumption : Resumption} {states : NodeStates}
    (ready : resumption.Ready states) (came : resumption.succeeded = true) :
    states.phase resumption.hostname = .powerDown := by
  apply ready.1
  cases answer : resumption.answer? with
  | none => simp [succeeded, answer] at came
  | some => rfl

/-- The move back is recorded, and the other nodes keep their phases. -/
theorem Ready.apply_eq {resumption : Resumption} {states : NodeStates}
    (ready : resumption.Ready states) :
    (resumption.apply states).history = states.history ++ resumption.moves ∧
      ∀ other, other ≠ resumption.hostname →
        (resumption.apply states).phase other = states.phase other := by
  cases came : resumption.succeeded with
  | true =>
    have legal : Phase.powerDown.mayMoveTo .schedulable = true := rfl
    obtain ⟨history, phases⟩ :=
      NodeStates.advance_of_mayMoveTo states _ (ready.powerDown came) legal
    rw [apply, if_pos came]
    refine ⟨by rw [history, moves, if_pos came], fun other differs => ?_⟩
    rw [phases, if_neg differs]
  | false => simp [apply, moves, came]

theorem mem_events {resumption : Resumption} {event : Event} :
    event ∈ resumption.events ↔ ∃ answer, resumption.answer? = some answer ∧
      .updateNodes resumption.hostname .resume none answer = event := by
  simp [events]

theorem resumed?_eq_some {resumption : Resumption} {hostname : String} :
    resumption.resumed? = some hostname ↔
      resumption.hostname = hostname ∧ resumption.answer? = some (.ok ()) := by
  obtain ⟨host, answer?⟩ := resumption
  match answer? with
  | none => simp [resumed?, succeeded]
  | some (.ok ()) => simp [resumed?, succeeded, Except.isOk, Except.toBool]
  | some (.error error) => simp [resumed?, succeeded, Except.isOk, Except.toBool]

end Resumption

/-- Nodes leave service to be drained or powered down. -/
theorem target_of_mem_offlineMoves {hostnames : List String} {down powerDown : Answer}
    {trigger : Trigger} {move : Transition}
    (inside : move ∈ offlineMoves hostnames down powerDown trigger) :
    move.target ≠ .schedulable ∧
      (move.target = .powerDown → poweredDown powerDown trigger = true) := by
  cases trigger with
  | idle =>
    obtain ⟨host, -, rfl⟩ := List.mem_map.1 inside
    exact ⟨Phase.noConfusion, fun _ => rfl⟩
  | jobCompletion job =>
    rcases List.mem_append.1 inside with drained | powered
    · split at drained
      · obtain ⟨host, -, rfl⟩ := List.mem_map.1 drained
        exact ⟨Phase.noConfusion, Phase.noConfusion⟩
      · cases drained
    · split at powered
      · rename_i accepted
        obtain ⟨host, -, rfl⟩ := List.mem_map.1 powered
        exact ⟨Phase.noConfusion, fun _ => accepted⟩
      · cases powered

/-- A node that is powered down has a move that tells it. -/
theorem mem_offlineMoves_of_poweredDown {hostnames : List String} {down powerDown : Answer}
    {trigger : Trigger} (powered : poweredDown powerDown trigger = true) {host : String}
    (inside : host ∈ hostnames) :
    ∃ source, ⟨host, source, .powerDown⟩ ∈ offlineMoves hostnames down powerDown trigger := by
  cases trigger with
  | idle => exact ⟨_, List.mem_map_of_mem inside⟩
  | jobCompletion job =>
    have accepted : powerDown.isOk = true := powered
    refine ⟨if down.isOk then .adminDown else .schedulable, List.mem_append_right _ ?_⟩
    rw [if_pos accepted]
    exact List.mem_map_of_mem inside

/-- The moves back into service are those of the accepted orders to resume. -/
theorem moves_hostnames (resumptions : List Resumption) :
    ((resumptions.flatMap Resumption.moves).filter fun move => move.target == .schedulable).map
        Transition.hostname = resumptions.filterMap Resumption.resumed? := by
  induction resumptions with
  | nil => rfl
  | cons resumption resumptions ih =>
    rw [List.flatMap_cons, List.filter_append, List.map_append, ih]
    cases came : resumption.succeeded <;>
      simp [Resumption.moves, Resumption.resumed?, came]

variable {World : Type} {collaborators : Collaborators World} {session last : Session World}

theorem issue_performs {nodes : String} {target : Target} {reason : Option String}
    {accepted : Bool}
    (done : NodeStates.issue collaborators nodes target reason session = some (accepted, last)) :
    ∃ answer : Answer, accepted = answer.isOk ∧
      Performs collaborators session [.updateNodes nodes target reason answer] last := by
  simp only [NodeStates.issue, Step.bind_eq_some] at done
  obtain ⟨answer, middle, asked, done⟩ := done
  refine ⟨answer, ?_⟩
  cases answer <;>
    · obtain ⟨rfl, rfl⟩ := Step.pure_eq_some.1 done
      exact ⟨rfl, Collaborators.updateNodes_performs asked⟩

/-- A node that is powered down gets one order to resume, and another node gets none. -/
theorem readmit_resumption {hostname : String} {states after : NodeStates} {resumed : Bool}
    (done : NodeStates.readmit collaborators hostname states session =
      some ((resumed, after), last)) :
    ∃ resumption : Resumption, resumption.hostname = hostname ∧ resumption.Ready states ∧
      resumed = resumption.succeeded ∧
      Performs collaborators session resumption.events last ∧ after = resumption.apply states := by
  by_cases down : states.phase hostname = .powerDown
  · have legal : Phase.powerDown.mayMoveTo .schedulable = true := rfl
    rw [NodeStates.readmit, down, if_pos legal, Step.bind_eq_some] at done
    obtain ⟨accepted, middle, issued, done⟩ := done
    obtain ⟨answer, rfl, performed⟩ := issue_performs issued
    refine ⟨⟨hostname, some answer⟩, rfl, by simp [Resumption.Ready, down], ?_⟩
    cases answer <;>
      · obtain ⟨rfl, rfl, rfl⟩ := Step.pure_pair_eq_some.1 done
        exact ⟨rfl, performed, rfl⟩
  · have illegal := mt (NodeStates.mayMoveTo_schedulable_iff _).1 down
    rw [NodeStates.readmit, if_neg illegal] at done
    obtain ⟨rfl, rfl, rfl⟩ := Step.pure_pair_eq_some.1 done
    exact ⟨⟨hostname, none⟩, rfl, by simp [Resumption.Ready, down], rfl, .nothing _, rfl⟩

/-- The order to resume a node changes the phase of this node only. -/
theorem readmit_performs {hostname : String} {states after : NodeStates} {resumed : Bool}
    (done : NodeStates.readmit collaborators hostname states session =
      some ((resumed, after), last)) :
    ∃ resumption : Resumption, resumption.hostname = hostname ∧
      (resumption.answer?.isSome ↔ states.phase hostname = .powerDown) ∧
      resumed = resumption.succeeded ∧
      Performs collaborators session resumption.events last ∧
      after.history = states.history ++ resumption.moves ∧
      ∀ other, other ≠ hostname → after.phase other = states.phase other := by
  obtain ⟨resumption, rfl, ready, told, performed, rfl⟩ := readmit_resumption done
  obtain ⟨history, others⟩ := ready.apply_eq
  exact ⟨resumption, rfl, ready, told, performed, history, others⟩

/-- An accepted order to drain moves all nodes, and a refused one moves none. -/
theorem drain_states (down : Answer) {hostnames : List String} (distinct : hostnames.Nodup) :
    let drained := if down.isOk then NodeStates.initial.advanceAll .adminDown hostnames
      else .initial
    drained.history =
        (if down.isOk then hostnames.map (⟨·, .schedulable, .adminDown⟩) else []) ∧
      ∀ host ∈ hostnames,
        drained.phase host = if down.isOk then .adminDown else .schedulable := by
  cases accepted : down.isOk with
  | true =>
    have legal : Phase.schedulable.mayMoveTo .adminDown = true := rfl
    obtain ⟨recorded, phases⟩ :=
      NodeStates.advanceAll_of_mayMoveTo legal distinct .initial fun _ _ => rfl
    exact ⟨recorded, fun host inside => by simp [phases, inside]⟩
  | false => exact ⟨rfl, fun _ _ => rfl⟩

/-- The nodes move after each accepted order, and the idle policy gives none. -/
def offlineStates (hostnames : List String) (down powerDown : Answer) (states : NodeStates) :
    Trigger → NodeStates
  | .idle => states.advanceAll .powerDown hostnames
  | .jobCompletion _ =>
    let drained := if down.isOk then states.advanceAll .adminDown hostnames else states
    if powerDown.isOk then drained.advanceAll .powerDown hostnames else drained

theorem takeOffline_orders {expression : String} {hostnames : List String} {trigger : Trigger}
    {states after : NodeStates}
    (done : NodeStates.takeOffline collaborators expression hostnames trigger states session =
      some (after, last)) :
    ∃ down powerDown : Answer,
      Performs collaborators session (offlineOrders expression down powerDown trigger) last ∧
      after = offlineStates hostnames down powerDown states trigger := by
  cases trigger with
  | idle =>
    obtain ⟨rfl, rfl⟩ := Step.pure_eq_some.1 done
    exact ⟨.ok (), .ok (), .nothing _, rfl⟩
  | jobCompletion job =>
    simp only [NodeStates.takeOffline, Step.bind_eq_some] at done
    obtain ⟨drained, middle, first, accepted, final, second, done⟩ := done
    obtain ⟨down, rfl, former⟩ := issue_performs first
    obtain ⟨powerDown, rfl, latter⟩ := issue_performs second
    obtain ⟨result, rfl⟩ := Step.pure_eq_some.1 done
    exact ⟨down, powerDown, former.trans latter, result.symm⟩

/-- The nodes of a run leave service together, and all of them are powered down or none is. -/
theorem takeOffline_performs {expression : String} {hostnames : List String} {trigger : Trigger}
    {states : NodeStates} (distinct : hostnames.Nodup)
    (done : NodeStates.takeOffline collaborators expression hostnames trigger .initial session =
      some (states, last)) :
    ∃ down powerDown : Answer,
      Performs collaborators session (offlineOrders expression down powerDown trigger) last ∧
      states.history = offlineMoves hostnames down powerDown trigger ∧
      ∀ host ∈ hostnames, states.phase host = .powerDown ↔ poweredDown powerDown trigger := by
  obtain ⟨down, powerDown, performed, rfl⟩ := takeOffline_orders done
  refine ⟨down, powerDown, performed, ?_⟩
  cases trigger with
  | idle =>
    have legal : Phase.schedulable.mayMoveTo .powerDown = true := rfl
    obtain ⟨recorded, phases⟩ :=
      NodeStates.advanceAll_of_mayMoveTo legal distinct .initial fun _ _ => rfl
    refine ⟨recorded, fun host inside => ?_⟩
    simp [offlineStates, phases, inside, poweredDown]
  | jobCompletion job =>
    obtain ⟨recorded, phases⟩ := drain_states down distinct
    rw [offlineStates]
    generalize (if down.isOk then NodeStates.initial.advanceAll .adminDown hostnames
      else .initial) = drained at recorded phases ⊢
    have legal : (if down.isOk then Phase.adminDown else .schedulable).mayMoveTo .powerDown := by
      split <;> rfl
    cases accepted : powerDown.isOk with
    | true =>
      obtain ⟨moved, final⟩ := NodeStates.advanceAll_of_mayMoveTo legal distinct drained phases
      refine ⟨by simp [moved, recorded, offlineMoves, accepted], fun host inside => ?_⟩
      simp [final, inside, poweredDown, accepted]
    | false =>
      refine ⟨by simp [recorded, offlineMoves, accepted], fun host inside => ?_⟩
      rw [if_neg Bool.false_ne_true, phases host inside]
      split <;> simp [poweredDown, accepted]

end Scaledown.Scheduler
