/-
This file tells when all orders to the scheduler are legal for the nodes that they name.
-/

import Scaledown.Proofs.Scheduler.Lifecycle

namespace Scaledown.Scheduler

/-- An accepted order moves its nodes to this phase. -/
def Target.phase : Target → Phase
  | down => .adminDown
  | powerDown => .powerDown
  | resume => .schedulable

theorem Phase.mayMoveTo_adminDown_iff (phase : Phase) :
    phase.mayMoveTo .adminDown = true ↔ phase = .schedulable := by
  cases phase <;> simp [mayMoveTo]

theorem Phase.mayMoveTo_powerDown_iff (phase : Phase) :
    phase.mayMoveTo .powerDown = true ↔ phase ≠ .powerDown := by
  cases phase <;> simp [mayMoveTo]

/-- A node that is told to move arrives or stays where it is. -/
theorem NodeStates.phase_advance (states : NodeStates) (target : Phase) (host other : String) :
    (states.advance target host).phase other = target ∨
      (states.advance target host).phase other = states.phase other := by
  by_cases legal : (states.phase host).mayMoveTo target
  · rw [(advance_of_mayMoveTo states host rfl legal).2]
    split
    · exact .inl rfl
    · exact .inr rfl
  · rw [advance, if_neg legal]
    exact .inr rfl

theorem NodeStates.phase_advanceAll (states : NodeStates) (target : Phase)
    (hostnames : List String) (other : String) :
    (states.advanceAll target hostnames).phase other = target ∨
      (states.advanceAll target hostnames).phase other = states.phase other := by
  induction hostnames generalizing states with
  | nil => exact .inr rfl
  | cons host hostnames ih =>
    rcases ih (states.advance target host) with arrived | stayed
    · exact .inl arrived
    · have first := states.phase_advance target host other
      rwa [← stayed] at first

namespace Stage

/-- The stage is about these nodes, and its order is given for all of them. -/
def hostnames : Stage → List String
  | idle hostnames => hostnames
  | drain _ _ hostnames _ => hostnames
  | powerDown _ hostnames _ => hostnames
  | bringBack resumption => [resumption.hostname]

/-- Every node of an order may move from its present phase to the one of the order. -/
def OrdersLegally (found : NodeStates) (stage : Stage) : Prop :=
  ∀ nodes target reason answer, .updateNodes nodes target reason answer ∈ stage.events →
    ∀ host ∈ stage.hostnames, (found.phase host).mayMoveTo target.phase = true

variable {found : NodeStates}

theorem ordersLegally_idle (hostnames : List String) : (idle hostnames).OrdersLegally found := by
  rintro nodes target reason answer ⟨⟩

/-- Only nodes in service may be drained. -/
theorem ordersLegally_drain_iff {job : Nat} {expression : String} {hostnames : List String}
    {answer : Answer} :
    (drain job expression hostnames answer).OrdersLegally found ↔
      ∀ host ∈ hostnames, found.phase host = .schedulable := by
  constructor
  · intro legal host inside
    have moves := legal _ _ _ _ List.mem_cons_self host inside
    exact (Phase.mayMoveTo_adminDown_iff _).1 moves
  · rintro inService nodes target reason given ordered host inside
    obtain ⟨-, rfl, -, -⟩ := Event.updateNodes.inj (List.mem_singleton.1 ordered)
    exact (Phase.mayMoveTo_adminDown_iff _).2 (inService host inside)

/-- Every node may be powered down that is not powered down already. -/
theorem ordersLegally_powerDown {expression : String} {hostnames : List String} {answer : Answer}
    (running : ∀ host ∈ hostnames, found.phase host ≠ .powerDown) :
    (powerDown expression hostnames answer).OrdersLegally found := by
  rintro nodes target reason given ordered host inside
  obtain ⟨-, rfl, -, -⟩ := Event.updateNodes.inj (List.mem_singleton.1 ordered)
  exact (Phase.mayMoveTo_powerDown_iff _).2 (running host inside)

/-- A node is told to resume only when it may come back. -/
theorem Ready.ordersLegally_bringBack {resumption : Resumption}
    (ready : (bringBack resumption).Ready found) :
    (bringBack resumption).OrdersLegally found := by
  rintro nodes target reason answer ordered host inside
  obtain ⟨given, answered, same⟩ := Resumption.mem_events.1 ordered
  obtain ⟨-, rfl, -, -⟩ := Event.updateNodes.inj same
  rw [List.mem_singleton.1 inside]
  apply (NodeStates.mayMoveTo_schedulable_iff _).2
  exact ready.1 (by simp [answered])

/-- A node that was in service is not yet powered down after its job was told to drain it. -/
theorem phase_apply_drain_ne (job : Nat) (expression : String) (hostnames : List String)
    (answer : Answer) {host : String} (inService : found.phase host = .schedulable) :
    ((drain job expression hostnames answer).apply found).phase host ≠ .powerDown := by
  rw [apply]
  split
  · rcases found.phase_advanceAll .adminDown hostnames host with drained | stayed
    · simp [drained]
    · simp [stayed, inService]
  · simp [inService]

end Stage

/-- The nodes of a job are powered down directly after they were drained. -/
theorem NodeRequest.drain_before_powerDown {requests : List NodeRequest}
    {parts : List (List Stage)} (taken : List.Forall₂ NodeRequest.Takes requests parts)
    {former latter : List Stage} {expression : String} {hostnames : List String}
    {powerDown : Answer}
    (cut : parts.flatten = former ++ .powerDown expression hostnames powerDown :: latter) :
    ∃ earlier job down, former = earlier ++ [.drain job expression hostnames down] := by
  induction taken generalizing former with
  | nil => simp at cut
  | cons takes taken ih =>
    cases former with
    | nil => cases takes <;> simp at cut
    | cons head former =>
      cases takes with
      | idle | bringBack =>
        obtain ⟨earlier, job, down, rfl⟩ := ih (List.cons_eq_cons.1 cut).2
        exact ⟨head :: earlier, job, down, rfl⟩
      | job job _ _ down =>
        obtain ⟨rfl, rest⟩ := List.cons_eq_cons.1 cut
        cases former with
        | nil =>
          obtain ⟨same, -⟩ := List.cons_eq_cons.1 rest
          obtain ⟨rfl, rfl, -⟩ := Stage.powerDown.inj same
          exact ⟨[], job, down, rfl⟩
        | cons other former =>
          obtain ⟨earlier, next, answer, rfl⟩ := ih (List.cons_eq_cons.1 rest).2
          exact ⟨_ :: other :: earlier, next, answer, rfl⟩

variable {World : Type} {collaborators : Collaborators World} {session : Session World}

/-- Whatever the scheduler answers, every order to resume is legal, and all orders are legal
exactly when every job finds its nodes in service. -/
theorem carryOutAll_orders_legally_iff (answered : AnswersUpdates collaborators session)
    (requests : List NodeRequest) :
    ∃ parts last, List.Forall₂ NodeRequest.Takes requests parts ∧
      GoesThrough collaborators .initial session (carryOutAll collaborators requests .initial)
        parts.flatten last ∧
      (∀ former resumption latter, parts.flatten = former ++ .bringBack resumption :: latter →
        (Stage.bringBack resumption).OrdersLegally (Stage.applyAll .initial former)) ∧
      ((∀ former stage latter, parts.flatten = former ++ stage :: latter →
          stage.OrdersLegally (Stage.applyAll .initial former)) ↔
        ∀ former job expression hostnames answer latter,
          parts.flatten = former ++ .drain job expression hostnames answer :: latter →
          ∀ host ∈ hostnames, (Stage.applyAll .initial former).phase host = .schedulable) := by
  obtain ⟨parts, last, taken, course⟩ := carryOutAll_goesThrough answered requests .initial
  have resumes : ∀ former resumption latter,
      parts.flatten = former ++ .bringBack resumption :: latter →
      (Stage.bringBack resumption).OrdersLegally (Stage.applyAll .initial former) := by
    intro former resumption latter cut
    have ready := course.ready
    rw [cut, Stage.allReady_append] at ready
    exact ready.2.1.ordersLegally_bringBack
  refine ⟨parts, last, taken, course, resumes, ?_, ?_⟩
  · intro legal former job expression hostnames answer latter cut
    exact Stage.ordersLegally_drain_iff.1 (legal former _ latter cut)
  · intro inService former stage latter cut
    cases stage with
    | idle hostnames => exact Stage.ordersLegally_idle hostnames
    | drain job expression hostnames answer =>
      exact Stage.ordersLegally_drain_iff.2 (inService former _ _ _ _ latter cut)
    | powerDown expression hostnames answer =>
      obtain ⟨earlier, job, down, rfl⟩ := NodeRequest.drain_before_powerDown taken cut
      rw [List.append_assoc] at cut
      have before := inService earlier job expression hostnames down _ cut
      apply Stage.ordersLegally_powerDown
      intro host inside
      rw [Stage.applyAll_append]
      exact Stage.phase_apply_drain_ne job expression hostnames down (before host inside)
    | bringBack resumption => exact resumes former resumption latter cut

theorem carryOutAll_orders_legally_iff_reluctant :
    AnswersUpdates Simulation.collaborators (.start reluctant) ∧
      ∃ parts last, List.Forall₂ NodeRequest.Takes reluctantRequests parts ∧
        GoesThrough Simulation.collaborators .initial (.start reluctant)
          (carryOutAll Simulation.collaborators reluctantRequests .initial) parts.flatten last ∧
        (∀ former resumption latter, parts.flatten = former ++ .bringBack resumption :: latter →
          (Stage.bringBack resumption).OrdersLegally (Stage.applyAll .initial former)) ∧
        ((∀ former stage latter, parts.flatten = former ++ stage :: latter →
            stage.OrdersLegally (Stage.applyAll .initial former)) ↔
          ∀ former job expression hostnames answer latter,
            parts.flatten = former ++ .drain job expression hostnames answer :: latter →
            ∀ host ∈ hostnames, (Stage.applyAll .initial former).phase host = .schedulable) := by
  have answered : AnswersUpdates Simulation.collaborators (.start reluctant) :=
    fun _ _ _ _ _ _ => ⟨_, _, rfl⟩
  exact ⟨answered, carryOutAll_orders_legally_iff answered reluctantRequests⟩

/-- This scheduler accepts every order. -/
def obedient : Simulation.World where
  provider := ⟨[], [], [], [], []⟩
  scheduler := ⟨none, none, []⟩
  accelerator := []

/-- The second job takes a node offline that is powered down already. -/
def repeatedJobs : List NodeRequest :=
  [.takeOffline "node-0" ["node-0"] (.jobCompletion 7),
    .takeOffline "node-0" ["node-0"] (.jobCompletion 8)]

/-- The second job has its node told to go down although the node is powered down. -/
theorem second_job_drains_powered_down_node :
    ∃ parts last, List.Forall₂ NodeRequest.Takes repeatedJobs parts ∧
      GoesThrough Simulation.collaborators .initial (.start obedient)
        (carryOutAll Simulation.collaborators repeatedJobs .initial) parts.flatten last ∧
      ¬ ∀ former stage latter, parts.flatten = former ++ stage :: latter →
        stage.OrdersLegally (Stage.applyAll .initial former) := by
  refine ⟨[[.drain 7 "node-0" ["node-0"] (.ok ()), .powerDown "node-0" ["node-0"] (.ok ())],
    [.drain 8 "node-0" ["node-0"] (.ok ()), .powerDown "node-0" ["node-0"] (.ok ())]], _,
    .cons (.job 7 _ _ _ _) (.cons (.job 8 _ _ _ _) .nil), ⟨?_, rfl, ?_⟩, fun legal => ?_⟩
  · exact ⟨trivial, trivial, trivial, trivial, trivial⟩
  · exact .call rfl (.call rfl (.call rfl (.call rfl (.nothing _))))
  · have drain := legal [_, _] _ _ rfl
    have inService := Stage.ordersLegally_drain_iff.1 drain "node-0" List.mem_cons_self
    have powered : (Stage.applyAll .initial
        [.drain 7 "node-0" ["node-0"] (.ok ()), .powerDown "node-0" ["node-0"] (.ok ())]).phase
          "node-0" = .powerDown := by decide
    rw [powered] at inService
    cases inService

end Scaledown.Scheduler
