/-
This file follows a run call by call.
-/

import Mathlib.Tactic
import Scaledown.Session

namespace Scaledown

variable {World α β : Type}

namespace Session

/-- The events are the recorded calls in order, without their times. -/
def events (session : Session World) : List Event :=
  session.history.map TimedEvent.event

/-- A call is recorded at the present time and leaves a new world. -/
def record (session : Session World) (event : Event) (world : World) : Session World :=
  ⟨world, session.time, session.history ++ [⟨session.time, event⟩]⟩

def later (session : Session World) (millis : Nat) : Session World :=
  { session with time := session.time + millis }

@[simp] theorem events_start (world : World) : (start world).events = [] := rfl

@[simp] theorem events_record (session : Session World) (event : Event) (world : World) :
    (session.record event world).events = session.events ++ [event] := by
  simp [events, record]

@[simp] theorem events_later (session : Session World) (millis : Nat) :
    (session.later millis).events = session.events := rfl

end Session

/-- The collaborators give the answer of this event in one world and leave the other one. -/
def Collaborators.Answers (collaborators : Collaborators World) (time : Nat) (event : Event)
    (before after : World) : Prop :=
  match event with
  | .deleteInstances batch answer =>
    collaborators.provider.deleteInstances time batch before = some (answer, after)
  | .waitOperation operation answer =>
    collaborators.provider.waitOperation time operation before = some (answer, after)
  | .listInstances region namePart answer =>
    collaborators.provider.listInstances time region namePart before = some (answer, after)
  | .deleteResourcePolicy region name answer =>
    collaborators.provider.deleteResourcePolicy time region name before = some (answer, after)
  | .expandHostlist expression answer =>
    collaborators.scheduler.expandHostlist expression before = some (answer, after)
  | .updateNodes nodes target reason answer =>
    collaborators.scheduler.updateNodes nodes target reason before = some (answer, after)
  | .deleteAccelerator node zone answer =>
    collaborators.accelerator.delete node zone before = some (answer, after)

/-- A part of a run makes these calls in order and sleeps in between. -/
inductive Performs (collaborators : Collaborators World) :
    Session World → List Event → Session World → Prop where
  | nothing (session : Session World) : Performs collaborators session [] session
  | sleep {session last : Session World} {events : List Event} (millis : Nat)
      (rest : Performs collaborators (session.later millis) events last) :
      Performs collaborators session events last
  | call {session last : Session World} {event : Event} {events : List Event} {world : World}
      (answered : collaborators.Answers session.time event session.world world)
      (rest : Performs collaborators (session.record event world) events last) :
      Performs collaborators session (event :: events) last

namespace Performs

variable {collaborators : Collaborators World} {first middle last : Session World}
  {events former latter : List Event}

theorem trans (one : Performs collaborators first former middle)
    (two : Performs collaborators middle latter last) :
    Performs collaborators first (former ++ latter) last := by
  induction one with
  | nothing => exact two
  | sleep millis _ ih => exact .sleep millis (ih two)
  | call answered _ ih => exact .call answered (ih two)

/-- A part of a run can be cut between any two of its calls. -/
theorem split (performed : Performs collaborators first (former ++ latter) last) :
    ∃ middle, Performs collaborators first former middle ∧
      Performs collaborators middle latter last := by
  generalize same : former ++ latter = events at performed
  induction performed generalizing former with
  | nothing =>
    obtain ⟨rfl, rfl⟩ := List.append_eq_nil_iff.1 same
    exact ⟨_, .nothing _, .nothing _⟩
  | sleep millis _ ih =>
    obtain ⟨middle, one, two⟩ := ih same
    exact ⟨middle, .sleep millis one, two⟩
  | call answered rest ih =>
    cases former with
    | nil =>
      subst same
      exact ⟨_, .nothing _, .call answered rest⟩
    | cons event former =>
      obtain ⟨rfl, tail⟩ := List.cons_eq_cons.1 same
      obtain ⟨middle, one, two⟩ := ih tail
      exact ⟨middle, .call answered one, two⟩

/-- A part of a run may sleep before its first call. -/
theorem cons {event : Event} (performed : Performs collaborators first (event :: latter) last) :
    ∃ session world, Performs collaborators first [] session ∧
      collaborators.Answers session.time event session.world world ∧
      Performs collaborators (session.record event world) latter last := by
  generalize same : event :: latter = events at performed
  induction performed with
  | nothing => cases same
  | sleep millis _ ih =>
    obtain ⟨session, world, slept, answered, rest⟩ := ih same
    exact ⟨session, world, .sleep millis slept, answered, rest⟩
  | call answered rest =>
    obtain ⟨rfl, rfl⟩ := List.cons_eq_cons.1 same
    exact ⟨_, _, .nothing _, answered, rest⟩

/-- The calls are added to the history. -/
theorem events_eq (performed : Performs collaborators first events last) :
    last.events = first.events ++ events := by
  induction performed with
  | nothing => simp
  | sleep _ _ ih => simpa using ih
  | call _ _ ih => simpa using ih

end Performs

/-- Each of these calls is allowed by the calls before it. -/
def Justified (allowed : List Event → Event → Prop) (before events : List Event) : Prop :=
  ∀ former event latter, events = former ++ event :: latter → allowed (before ++ former) event

namespace Justified

variable {allowed : List Event → Event → Prop} {before one two : List Event}

theorem append (first : Justified allowed before one)
    (second : Justified allowed (before ++ one) two) :
    Justified allowed before (one ++ two) := by
  intro former event latter cut
  rcases List.append_eq_append_iff.1 cut with ⟨middle, rfl, rest⟩ | ⟨middle, same, rest⟩
  · rw [← List.append_assoc]
    exact second middle event latter rest
  · cases middle with
    | nil =>
      rw [List.append_nil] at same
      subst same
      have := second [] event latter (by simpa using rest.symm)
      simpa using this
    | cons head middle =>
      obtain ⟨rfl, -⟩ := List.cons_eq_cons.1 rest
      exact first former event middle same

/-- The calls of both parts are justified, the later ones by the earlier ones too. -/
theorem of_append (whole : Justified allowed before (one ++ two)) :
    Justified allowed before one ∧ Justified allowed (before ++ one) two := by
  constructor
  · rintro former event latter rfl
    exact whole former event (latter ++ two) (by simp)
  · rintro former event latter rfl
    rw [List.append_assoc]
    exact whole (one ++ former) event latter (by simp)

theorem of_cons {event : Event} (whole : Justified allowed before (event :: two)) :
    allowed before event ∧ Justified allowed (before ++ [event]) two := by
  obtain ⟨first, rest⟩ := of_append (show Justified allowed before ([event] ++ two) from whole)
  have here := first [] event [] rfl
  rw [List.append_nil] at here
  exact ⟨here, rest⟩

theorem of_mem (whole : Justified allowed before one) {event : Event} (inside : event ∈ one) :
    ∃ former, allowed former event := by
  obtain ⟨former, latter, cut⟩ := List.append_of_mem inside
  exact ⟨_, whole former event latter cut⟩

/-- Calls that are always allowed are justified. -/
theorem of_forall (always : ∀ event ∈ one, ∀ before, allowed before event) :
    Justified allowed before one := by
  intro former event latter cut
  apply always event
  rw [cut]
  exact List.mem_append_right _ List.mem_cons_self

theorem singleton {event : Event} (here : allowed before event) :
    Justified allowed before [event] := by
  intro former other latter cut
  cases former with
  | nil =>
    obtain ⟨rfl, -⟩ := List.cons_eq_cons.1 cut
    rwa [List.append_nil]
  | cons head former => simp at cut

/-- What a stricter rule allows is allowed. -/
theorem mono {wider : List Event → Event → Prop}
    (weaker : ∀ before event, allowed before event → wider before event)
    (whole : Justified allowed before one) : Justified wider before one :=
  fun former event latter cut => weaker _ _ (whole former event latter cut)

/-- The calls of a list are justified when those of each member are justified by the calls of the
members before it. -/
theorem flatMap {α : Type} {calls : α → List Event} {members : List α}
    (each : ∀ earlier, ∀ member ∈ members,
      Justified allowed (before ++ earlier) (calls member)) :
    Justified allowed before (members.flatMap calls) := by
  induction members generalizing before with
  | nil => exact of_forall (by simp)
  | cons member members ih =>
    rw [List.flatMap_cons]
    refine append ?_ (ih fun earlier other inside => ?_)
    · simpa using each [] member List.mem_cons_self
    · rw [List.append_assoc]
      exact each _ other (List.mem_cons_of_mem _ inside)

end Justified

/-- The calls of a part are justified when every answer that may come is allowed. -/
theorem Performs.justified {collaborators : Collaborators World} {first last : Session World}
    {allowed : List Event → Event → Prop} {events : List Event}
    (gives : ∀ {before session event world}, Performs collaborators first before session →
      collaborators.Answers session.time event session.world world → allowed before event)
    (performed : Performs collaborators first events last) : Justified allowed [] events := by
  rintro former event latter rfl
  obtain ⟨middle, reached, rest⟩ := performed.split
  obtain ⟨session, world, slept, answered, -⟩ := rest.cons
  have arrived := reached.trans slept
  rw [List.append_nil] at arrived
  exact gives arrived answered

namespace Step

theorem pure_eq_some {value result : α} {session last : Session World} :
    (pure value : Step World α) session = some (result, last) ↔
      value = result ∧ session = last := by
  change some (value, session) = some (result, last) ↔ _
  simp

theorem pure_pair_eq_some {first one : α} {second other : β} {session last : Session World} :
    (pure (first, second) : Step World (α × β)) session = some ((one, other), last) ↔
      first = one ∧ second = other ∧ session = last := by
  rw [pure_eq_some, Prod.mk.injEq, and_assoc]

/-- A sequence of two steps ends when both of them end. -/
theorem bind_eq_some {step : Step World α} {next : α → Step World β} {session : Session World}
    {result : β × Session World} :
    (step >>= next) session = some result ↔
      ∃ value middle, step session = some (value, middle) ∧ next value middle = some result := by
  change (step session).bind (fun pair => next pair.1 pair.2) = some result ↔ _
  simp [Option.bind_eq_some_iff]

theorem sleep_performs {collaborators : Collaborators World} {duration : Duration}
    {session last : Session World} {value : Unit}
    (done : Step.sleep duration session = some (value, last)) :
    Performs collaborators session [] last := by
  obtain ⟨-, rfl⟩ := Prod.mk.inj (Option.some.inj done)
  exact .sleep _ (.nothing _)

/-- A call ends when its collaborator replies, and it is recorded with the reply. -/
theorem call_eq_some_iff {reply : Nat → Reply World α} {event : α → Event}
    {session last : Session World} {answer : α} :
    Step.call reply event session = some (answer, last) ↔
      ∃ world, reply session.time session.world = some (answer, world) ∧
        last = session.record (event answer) world := by
  change (reply session.time session.world).bind (fun pair =>
    some (pair.1, session.record (event pair.1) pair.2)) = _ ↔ _
  rw [Option.bind_eq_some_iff]
  constructor
  · rintro ⟨⟨given, world⟩, replied, recorded⟩
    obtain ⟨rfl, rfl⟩ := Prod.mk.inj (Option.some.inj recorded)
    exact ⟨world, replied, rfl⟩
  · rintro ⟨world, replied, rfl⟩
    exact ⟨(answer, world), replied, rfl⟩

/-- A call of a collaborator that replies ends with the reply. -/
theorem call_eq_some {reply : Nat → Reply World α} {event : α → Event} {session : Session World}
    {answer : α} {world : World}
    (replied : reply session.time session.world = some (answer, world)) :
    Step.call reply event session = some (answer, session.record (event answer) world) :=
  call_eq_some_iff.2 ⟨world, replied, rfl⟩

/-- A step that calls a collaborator performs this one call. -/
theorem call_performs {collaborators : Collaborators World} {reply : Nat → Reply World α}
    {event : α → Event} {session last : Session World} {answer : α}
    (done : Step.call reply event session = some (answer, last))
    (answers : ∀ world, reply session.time session.world = some (answer, world) →
      collaborators.Answers session.time (event answer) session.world world) :
    Performs collaborators session [event answer] last := by
  obtain ⟨world, replied, rfl⟩ := call_eq_some_iff.1 done
  exact .call (answers world replied) (.nothing _)

end Step

namespace Collaborators

variable {collaborators : Collaborators World} {session last : Session World}

theorem deleteInstances_performs {batch : List Compute.DeleteRequest}
    {answer : Except Compute.Error Compute.BatchOutcome}
    (done : collaborators.deleteInstances batch session = some (answer, last)) :
    Performs collaborators session [.deleteInstances batch answer] last :=
  Step.call_performs done fun _ replied => replied

theorem waitOperation_performs {operation : Compute.Operation}
    {answer : Except Compute.Error Compute.Operation}
    (done : collaborators.waitOperation operation session = some (answer, last)) :
    Performs collaborators session [.waitOperation operation answer] last :=
  Step.call_performs done fun _ replied => replied

theorem listInstances_performs {region namePart : String}
    {answer : Except Compute.Error (List Compute.Instance)}
    (done : collaborators.listInstances region namePart session = some (answer, last)) :
    Performs collaborators session [.listInstances region namePart answer] last :=
  Step.call_performs done fun _ replied => replied

theorem deleteResourcePolicy_performs {region name : String}
    {answer : Except Compute.Error Compute.Operation}
    (done : collaborators.deleteResourcePolicy region name session = some (answer, last)) :
    Performs collaborators session [.deleteResourcePolicy region name answer] last :=
  Step.call_performs done fun _ replied => replied

theorem expandHostlist_performs {expression : String}
    {answer : Except Scheduler.Error (List String)}
    (done : collaborators.expandHostlist expression session = some (answer, last)) :
    Performs collaborators session [.expandHostlist expression answer] last :=
  Step.call_performs done fun _ replied => replied

theorem updateNodes_performs {nodes : String} {target : Scheduler.Target}
    {reason : Option String} {answer : Except Scheduler.Error Unit}
    (done : collaborators.updateNodes nodes target reason session = some (answer, last)) :
    Performs collaborators session [.updateNodes nodes target reason answer] last :=
  Step.call_performs done fun _ replied => replied

theorem deleteAccelerator_performs {node zone : String} {answer : Except String Unit}
    (done : collaborators.deleteAccelerator node zone session = some (answer, last)) :
    Performs collaborators session [.deleteAccelerator node zone answer] last :=
  Step.call_performs done fun _ replied => replied

end Collaborators

end Scaledown
