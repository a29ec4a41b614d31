/-
This file shows that every node goes through legal phases, whatever its scheduler answers.
-/

import Scaledown.Proofs.Scheduler.NodeStates
import Scaledown.Simulation.Script

namespace Scaledown.Scheduler

/-- Each move starts in the phase where the one before it ended. -/
def Transition.Chain : Phase → List Transition → Phase → Prop
  | first, [], last => last = first
  | first, move :: moves, last => move.source = first ∧ Chain move.target moves last

theorem Transition.Chain.concat {first middle : Phase} {moves : List Transition}
    (chain : Chain first moves middle) {move : Transition} (next : move.source = middle) :
    Chain first (moves ++ [move]) move.target := by
  induction moves generalizing first with
  | nil => exact ⟨next.trans chain, rfl⟩
  | cons earlier moves ih => exact ⟨chain.1, ih chain.2⟩

/-- A node is drained and then powered down, or powered down at once, and then it comes back. -/
def Transition.Legal (move : Transition) : Prop :=
  (move.source, move.target) ∈
    [(Phase.schedulable, Phase.adminDown), (.schedulable, .powerDown), (.adminDown, .powerDown),
      (.powerDown, .schedulable)]

theorem Transition.legal_iff (move : Transition) :
    move.Legal ↔ move.source.mayMoveTo move.target = true := by
  obtain ⟨host, source, target⟩ := move
  cases source <;> cases target <;> simp [Legal, Phase.mayMoveTo]

namespace NodeStates

/-- The moves of every node are legal and lead from service to its present phase. -/
structure Coherent (states : NodeStates) : Prop where
  chain : ∀ host, Transition.Chain .schedulable
    (states.history.filter fun move => move.hostname = host) (states.phase host)
  legal : ∀ move ∈ states.history, move.Legal

theorem initial_coherent : initial.Coherent :=
  ⟨fun _ => rfl, fun _ inside => nomatch inside⟩

/-- A legal move extends the chain of its own node and leaves the other chains alone. -/
theorem Coherent.advance {states : NodeStates} (coherent : states.Coherent) (target : Phase)
    (host : String) : (states.advance target host).Coherent := by
  by_cases legal : (states.phase host).mayMoveTo target
  · obtain ⟨history, phases⟩ := advance_of_mayMoveTo states host rfl legal
    constructor
    · intro other
      rw [phases, history, List.filter_append]
      by_cases same : other = host
      · subst same
        have next : Transition.source ⟨other, states.phase other, target⟩ = states.phase other :=
          rfl
        simpa only [List.filter_cons, decide_true, if_true, List.filter_nil] using
          (coherent.chain other).concat next
      · simpa [same, Ne.symm same] using coherent.chain other
    · intro move inside
      rw [history] at inside
      rcases List.mem_append.1 inside with earlier | new
      · exact coherent.legal move earlier
      · rw [List.mem_singleton.1 new]
        exact (Transition.legal_iff _).2 legal
  · rwa [NodeStates.advance, if_neg legal]

theorem Coherent.advanceAll {states : NodeStates} (coherent : states.Coherent) (target : Phase)
    (hostnames : List String) : (states.advanceAll target hostnames).Coherent := by
  induction hostnames generalizing states with
  | nil => exact coherent
  | cons host hostnames ih => exact ih (coherent.advance target host)

/-- Moves to one phase are added to the history, each for one of the given nodes. -/
theorem advanceAll_history (target : Phase) (hostnames : List String) (states : NodeStates) :
    ∃ moves, (states.advanceAll target hostnames).history = states.history ++ moves ∧
      ∀ move ∈ moves, move.hostname ∈ hostnames ∧ move.target = target := by
  induction hostnames generalizing states with
  | nil => exact ⟨[], by simp [advanceAll], by simp⟩
  | cons host hostnames ih =>
    obtain ⟨moves, history, each⟩ := ih (states.advance target host)
    have later : ∀ move ∈ moves, move.hostname ∈ host :: hostnames ∧ move.target = target :=
      fun move inside => ⟨List.mem_cons_of_mem _ (each move inside).1, (each move inside).2⟩
    change ∃ moves, (advanceAll target hostnames (states.advance target host)).history = _ ∧ _
    rw [history]
    by_cases legal : (states.phase host).mayMoveTo target
    · rw [(advance_of_mayMoveTo states host rfl legal).1, List.append_assoc]
      exact ⟨_, rfl, List.forall_mem_cons.2 ⟨⟨List.mem_cons_self, rfl⟩, later⟩⟩
    · rw [advance, if_neg legal]
      exact ⟨moves, rfl, later⟩

end NodeStates

/-- The node states are asked to take nodes offline or to bring one back. -/
inductive NodeRequest where
  | takeOffline (expression : String) (hostnames : List String) (trigger : Trigger)
  | bringBack (hostname : String)

section Requests

variable {World : Type} (collaborators : Collaborators World)

/-- Only a request to bring a node back tells how it went. -/
def NodeRequest.carryOut (states : NodeStates) : NodeRequest → Step World (List Bool × NodeStates)
  | takeOffline expression hostnames trigger => do
    return ([], ← states.takeOffline collaborators expression hostnames trigger)
  | bringBack hostname => do
    let (resumed, states) ← states.readmit collaborators hostname
    return ([resumed], states)

/-- The requests are carried out one after another on the same node states. -/
def carryOutAll : List NodeRequest → NodeStates → Step World (List Bool × NodeStates)
  | [], states => return ([], states)
  | request :: requests, states => do
    let (told, states) ← request.carryOut collaborators states
    let (rest, states) ← carryOutAll requests states
    return (told ++ rest, states)

end Requests

/-- A stage is at most one order to the scheduler with the moves recorded directly after it. -/
inductive Stage where
  | idle (hostnames : List String)
  | drain (job : Nat) (expression : String) (hostnames : List String) (answer : Answer)
  | powerDown (expression : String) (hostnames : List String) (answer : Answer)
  | bringBack (resumption : Resumption)

/-- A job needs two orders to take its nodes offline, and every other request one at most. -/
inductive NodeRequest.Takes : NodeRequest → List Stage → Prop where
  | idle (expression : String) (hostnames : List String) :
      Takes (.takeOffline expression hostnames .idle) [.idle hostnames]
  | job (job : Nat) (expression : String) (hostnames : List String) (down powerDown : Answer) :
      Takes (.takeOffline expression hostnames (.jobCompletion job))
        [.drain job expression hostnames down, .powerDown expression hostnames powerDown]
  | bringBack (resumption : Resumption) :
      Takes (.bringBack resumption.hostname) [.bringBack resumption]

namespace Stage

def events : Stage → List Event
  | idle _ => []
  | drain job expression _ answer =>
    [.updateNodes expression .down (some (Nat.repr job ++ " finishing")) answer]
  | powerDown expression _ answer => [.updateNodes expression .powerDown none answer]
  | bringBack resumption => resumption.events

/-- A request to bring a node back tells whether its order was accepted. -/
def told : Stage → List Bool
  | bringBack resumption => [resumption.succeeded]
  | _ => []

/-- The nodes of a stage move after its order was accepted, and the idle policy needs none. -/
def apply (states : NodeStates) : Stage → NodeStates
  | idle hostnames => states.advanceAll .powerDown hostnames
  | drain _ _ hostnames answer =>
    if answer.isOk then states.advanceAll .adminDown hostnames else states
  | powerDown _ hostnames answer =>
    if answer.isOk then states.advanceAll .powerDown hostnames else states
  | bringBack resumption => resumption.apply states

def applyAll (states : NodeStates) (stages : List Stage) : NodeStates :=
  stages.foldl apply states

theorem applyAll_append (states : NodeStates) (former latter : List Stage) :
    applyAll states (former ++ latter) = applyAll (applyAll states former) latter :=
  List.foldl_append

theorem apply_coherent {states : NodeStates} (coherent : states.Coherent) (stage : Stage) :
    (stage.apply states).Coherent := by
  cases stage with
  | idle hostnames => exact coherent.advanceAll _ _
  | drain job expression hostnames answer =>
    rw [apply]
    split
    · exact coherent.advanceAll _ _
    · exact coherent
  | powerDown expression hostnames answer =>
    rw [apply]
    split
    · exact coherent.advanceAll _ _
    · exact coherent
  | bringBack resumption =>
    rw [apply, Resumption.apply]
    split
    · exact coherent.advance _ _
    · exact coherent

theorem applyAll_coherent {states : NodeStates} (coherent : states.Coherent)
    (stages : List Stage) : (applyAll states stages).Coherent := by
  induction stages generalizing states with
  | nil => exact coherent
  | cons stage stages ih => exact ih (apply_coherent coherent stage)

/-- A node that may come back is called back exactly when it is powered down. -/
def Ready (states : NodeStates) : Stage → Prop
  | bringBack resumption => resumption.Ready states
  | _ => True

/-- Every stage finds the node states that the stages before it have left. -/
def AllReady : NodeStates → List Stage → Prop
  | _, [] => True
  | states, stage :: stages => stage.Ready states ∧ AllReady (stage.apply states) stages

theorem allReady_append {states : NodeStates} {former latter : List Stage} :
    AllReady states (former ++ latter) ↔
      AllReady states former ∧ AllReady (applyAll states former) latter := by
  induction former generalizing states with
  | nil => exact (and_iff_right trivial).symm
  | cons stage former ih =>
    change stage.Ready states ∧ AllReady _ (former ++ latter) ↔ (_ ∧ _) ∧ _
    rw [ih, and_assoc]
    rfl

/-- A stage records these moves, those of an order only when it was accepted. -/
inductive Allows : Stage → Transition → Prop where
  | idle {hostnames : List String} {host : String} (source : Phase) (inside : host ∈ hostnames) :
      Allows (.idle hostnames) ⟨host, source, .powerDown⟩
  | drain {hostnames : List String} {host : String} (job : Nat) (expression : String)
      (source : Phase) (inside : host ∈ hostnames) :
      Allows (.drain job expression hostnames (.ok ())) ⟨host, source, .adminDown⟩
  | powerDown {hostnames : List String} {host : String} (expression : String) (source : Phase)
      (inside : host ∈ hostnames) :
      Allows (.powerDown expression hostnames (.ok ())) ⟨host, source, .powerDown⟩
  | bringBack (host : String) :
      Allows (.bringBack ⟨host, some (.ok ())⟩) ⟨host, .powerDown, .schedulable⟩

/-- What a stage does to the node states that it finds. -/
structure Lawful (found : NodeStates) (stage : Stage) : Prop where
  records : ∃ moves, (stage.apply found).history = found.history ++ moves ∧
    ∀ move ∈ moves, stage.Allows move
  resumes : ∀ host reason answer, .updateNodes host .resume reason answer ∈ stage.events →
    found.phase host = .powerDown
  tells : ∀ resumption, stage = .bringBack resumption →
    (stage.told = [true] ↔ (stage.apply found).history =
      found.history ++ [⟨resumption.hostname, .powerDown, .schedulable⟩]) ∧
    (stage.told = [false] → stage.apply found = found)

theorem records_advanceAll {stage : Stage} {target : Phase} {hostnames : List String}
    (allows : ∀ host source, host ∈ hostnames → stage.Allows ⟨host, source, target⟩)
    (states : NodeStates) :
    ∃ moves, (states.advanceAll target hostnames).history = states.history ++ moves ∧
      ∀ move ∈ moves, stage.Allows move := by
  obtain ⟨moves, history, each⟩ := NodeStates.advanceAll_history target hostnames states
  refine ⟨moves, history, fun move inside => ?_⟩
  obtain ⟨given, rfl⟩ := each move inside
  exact allows move.hostname move.source given

theorem Ready.records {states : NodeStates} {stage : Stage} (ready : stage.Ready states) :
    ∃ moves, (stage.apply states).history = states.history ++ moves ∧
      ∀ move ∈ moves, stage.Allows move := by
  have nothing : ∃ moves, states.history = states.history ++ moves ∧
      ∀ move ∈ moves, stage.Allows move := ⟨[], by simp, by simp⟩
  match stage with
  | .idle hostnames => exact records_advanceAll (fun _ source => .idle source) states
  | .drain job expression hostnames (.ok ()) =>
    exact records_advanceAll (fun _ source => .drain job expression source) states
  | .powerDown expression hostnames (.ok ()) =>
    exact records_advanceAll (fun _ source => .powerDown expression source) states
  | .drain _ _ _ (.error _) => exact nothing
  | .powerDown _ _ (.error _) => exact nothing
  | .bringBack ⟨host, answer?⟩ =>
    refine ⟨_, (Resumption.Ready.apply_eq ready).1, fun move inside => ?_⟩
    match answer? with
    | some (.ok ()) =>
      rw [List.mem_singleton.1 inside]
      exact .bringBack host
    | some (.error _) => cases inside
    | none => cases inside

theorem Ready.lawful {states : NodeStates} {stage : Stage} (ready : stage.Ready states) :
    stage.Lawful states where
  records := ready.records
  resumes host reason answer inside := by
    cases stage with
    | bringBack resumption =>
      obtain ⟨given, answered, same⟩ := Resumption.mem_events.1 inside
      obtain ⟨rfl, -⟩ := Event.updateNodes.inj same
      exact ready.1 (by simp [answered])
    | _ => simp [events] at inside
  tells := by
    rintro resumption rfl
    obtain ⟨history, -⟩ := Resumption.Ready.apply_eq ready
    change ([resumption.succeeded] = [true] ↔ (resumption.apply states).history = _) ∧
      ([resumption.succeeded] = [false] → resumption.apply states = states)
    rw [history]
    cases came : resumption.succeeded <;> simp [Resumption.moves, Resumption.apply, came]

end Stage

variable {World : Type} {collaborators : Collaborators World} {session : Session World}

/-- From here on the scheduler answers every order, whether it accepts it or not. -/
def AnswersUpdates (collaborators : Collaborators World) (session : Session World) : Prop :=
  ∀ ⦃events later⦄, Performs collaborators session events later →
    ∀ nodes target reason, ∃ answer after,
      collaborators.scheduler.updateNodes nodes target reason later.world = some (answer, after)

theorem AnswersUpdates.after {last : Session World} {events : List Event}
    (answered : AnswersUpdates collaborators session)
    (performed : Performs collaborators session events last) :
    AnswersUpdates collaborators last :=
  fun _ _ rest => answered (performed.trans rest)

theorem issue_answered (answered : AnswersUpdates collaborators session) (nodes : String)
    (target : Target) (reason : Option String) :
    ∃ accepted last,
      NodeStates.issue collaborators nodes target reason session = some (accepted, last) ∧
        AnswersUpdates collaborators last := by
  obtain ⟨answer, after, replied⟩ := answered (.nothing session) nodes target reason
  have called : collaborators.updateNodes nodes target reason session = _ :=
    Step.call_eq_some replied
  have later := answered.after (Collaborators.updateNodes_performs called)
  cases answer with
  | ok => exact ⟨true, _, Step.bind_eq_some.2 ⟨_, _, called, rfl⟩, later⟩
  | error error => exact ⟨false, _, Step.bind_eq_some.2 ⟨_, _, called, rfl⟩, later⟩

theorem takeOffline_answered (answered : AnswersUpdates collaborators session)
    (expression : String) (hostnames : List String) (trigger : Trigger) (states : NodeStates) :
    ∃ after last, NodeStates.takeOffline collaborators expression hostnames trigger states
      session = some (after, last) := by
  cases trigger with
  | idle => exact ⟨_, _, rfl⟩
  | jobCompletion job =>
    obtain ⟨drained, middle, first, later⟩ :=
      issue_answered answered expression .down (some (Nat.repr job ++ " finishing"))
    obtain ⟨poweredDown, last, second, -⟩ := issue_answered later expression .powerDown none
    exact ⟨_, _, Step.bind_eq_some.2 ⟨_, _, first, Step.bind_eq_some.2 ⟨_, _, second, rfl⟩⟩⟩

theorem readmit_answered (answered : AnswersUpdates collaborators session) (hostname : String)
    (states : NodeStates) :
    ∃ resumed after last, NodeStates.readmit collaborators hostname states session =
      some ((resumed, after), last) := by
  unfold NodeStates.readmit
  split
  · obtain ⟨accepted, last, issued, -⟩ := issue_answered answered hostname .resume none
    cases accepted <;> exact ⟨_, _, _, Step.bind_eq_some.2 ⟨_, _, issued, rfl⟩⟩
  · exact ⟨_, _, _, rfl⟩

/-- The step goes through these stages. -/
structure GoesThrough (collaborators : Collaborators World) (states : NodeStates)
    (session : Session World) (step : Step World (List Bool × NodeStates)) (stages : List Stage)
    (last : Session World) : Prop where
  ready : Stage.AllReady states stages
  result : step session = some ((stages.flatMap Stage.told, Stage.applyAll states stages), last)
  performed : Performs collaborators session (stages.flatMap Stage.events) last

theorem NodeRequest.carryOut_goesThrough (answered : AnswersUpdates collaborators session)
    (request : NodeRequest) (states : NodeStates) :
    ∃ stages last, request.Takes stages ∧
      GoesThrough collaborators states session (request.carryOut collaborators states) stages
        last := by
  cases request with
  | takeOffline expression hostnames trigger =>
    obtain ⟨after, last, done⟩ :=
      takeOffline_answered answered expression hostnames trigger states
    obtain ⟨down, powerDown, performed, rfl⟩ := takeOffline_orders done
    cases trigger with
    | idle =>
      exact ⟨_, last, .idle expression hostnames, ⟨trivial, trivial⟩,
        Step.bind_eq_some.2 ⟨_, _, done, rfl⟩, performed⟩
    | jobCompletion job =>
      exact ⟨_, last, .job job expression hostnames down powerDown, ⟨trivial, trivial, trivial⟩,
        Step.bind_eq_some.2 ⟨_, _, done, rfl⟩, performed⟩
  | bringBack hostname =>
    obtain ⟨resumed, after, last, done⟩ := readmit_answered answered hostname states
    obtain ⟨resumption, rfl, ready, rfl, performed, rfl⟩ := readmit_resumption done
    refine ⟨_, last, .bringBack resumption, ⟨ready, trivial⟩,
      Step.bind_eq_some.2 ⟨_, _, done, rfl⟩, ?_⟩
    simpa [Stage.events] using performed

theorem carryOutAll_goesThrough (answered : AnswersUpdates collaborators session)
    (requests : List NodeRequest) (states : NodeStates) :
    ∃ parts last, List.Forall₂ NodeRequest.Takes requests parts ∧
      GoesThrough collaborators states session (carryOutAll collaborators requests states)
        parts.flatten last := by
  induction requests generalizing states session with
  | nil => exact ⟨[], session, .nil, trivial, rfl, .nothing _⟩
  | cons request requests ih =>
    obtain ⟨stages, middle, taken, one⟩ := request.carryOut_goesThrough answered states
    obtain ⟨parts, last, others, rest⟩ :=
      ih (answered.after one.performed) (Stage.applyAll states stages)
    refine ⟨stages :: parts, last, .cons taken others, ?_⟩
    rw [List.flatten_cons]
    constructor
    · exact Stage.allReady_append.2 ⟨one.ready, rest.ready⟩
    · rw [List.flatMap_append, Stage.applyAll_append]
      exact Step.bind_eq_some.2 ⟨_, _, one.result, Step.bind_eq_some.2 ⟨_, _, rest.result, rfl⟩⟩
    · rw [List.flatMap_append]
      exact one.performed.trans rest.performed

/-- However often nodes are taken offline and brought back, and whatever the scheduler answers,
every stage does only what is lawful, and every node goes from phase to phase by legal moves. -/
theorem carryOutAll_keeps_phases_lawful (answered : AnswersUpdates collaborators session)
    (requests : List NodeRequest) :
    ∃ parts last, List.Forall₂ NodeRequest.Takes requests parts ∧
      carryOutAll collaborators requests .initial session =
        some ((parts.flatten.flatMap Stage.told, Stage.applyAll .initial parts.flatten), last) ∧
      Performs collaborators session (parts.flatten.flatMap Stage.events) last ∧
      (∀ former stage latter, parts.flatten = former ++ stage :: latter →
        stage.Lawful (Stage.applyAll .initial former)) ∧
      (Stage.applyAll .initial parts.flatten).Coherent := by
  obtain ⟨parts, last, taken, run⟩ := carryOutAll_goesThrough answered requests .initial
  refine ⟨parts, last, taken, run.result, run.performed, ?_, ?_⟩
  · intro former stage latter cut
    have ready := run.ready
    rw [cut, Stage.allReady_append] at ready
    exact ready.2.1.lawful
  · exact Stage.applyAll_coherent NodeStates.initial_coherent _

/-- This scheduler refuses its first order to drain and its first order to resume. -/
def reluctant : Simulation.World where
  provider := ⟨[], [], [], [], []⟩
  scheduler := ⟨none, none,
    [⟨.down, none, some 1, .exited "scontrol" "exit status: 1" "busy"⟩,
      ⟨.resume, none, some 1, .exited "scontrol" "exit status: 1" "busy"⟩]⟩
  accelerator := []

def reluctantRequests : List NodeRequest :=
  [.bringBack "node-0", .takeOffline "node-[0-1]" ["node-0", "node-1", "node-0"] (.jobCompletion 7),
    .bringBack "node-0", .bringBack "node-0", .takeOffline "node-0" ["node-0"] .idle,
    .takeOffline "node-[0-1]" ["node-0", "node-1"] (.jobCompletion 8), .bringBack "node-1"]

theorem carryOutAll_keeps_phases_lawful_reluctant :
    AnswersUpdates Simulation.collaborators (.start reluctant) ∧
      ∃ parts last, List.Forall₂ NodeRequest.Takes reluctantRequests parts ∧
        carryOutAll Simulation.collaborators reluctantRequests .initial (.start reluctant) =
          some ((parts.flatten.flatMap Stage.told, Stage.applyAll .initial parts.flatten),
            last) ∧
        Performs Simulation.collaborators (.start reluctant) (parts.flatten.flatMap Stage.events)
          last ∧
        (∀ former stage latter, parts.flatten = former ++ stage :: latter →
          stage.Lawful (Stage.applyAll .initial former)) ∧
        (Stage.applyAll .initial parts.flatten).Coherent := by
  have answered : AnswersUpdates Simulation.collaborators (.start reluctant) :=
    fun _ _ _ _ _ _ => ⟨_, _, rfl⟩
  exact ⟨answered, carryOutAll_keeps_phases_lawful answered reluctantRequests⟩

end Scaledown.Scheduler
